import ClientBuilder.CommandLine.Print
import ClientBuilder.Json.Printer
import ClientBuilder.ModelFile.Check
import ClientBuilder.ModelFile.Synthesize

namespace ClientBuilder.CommandLine

def printJson (j : Json) : List Print :=
  [.line (j.render (.indented 2))]

def policyColor : OverridePolicy → Color
  | .abstractRequired => .cyan
  | .defaultWithBody => .green
  | .defaultThrowsUnimplemented => .yellow
  | .deprecatedAlias => .red

def contractHead (c : Contract) : List Print :=
  [{ text := "\n📐 " ++ c.interfaceName, color := some .cyan, bold := true }]
    ++ (if c.package = [] then [] else [.line ("   📦 " ++ c.package)])
    ++ [.line ("   <" ++ Text.join ", " c.typeVariables ++ ">"),
      .line ("   extends " ++ c.superInterface), .blank]

def methodLine (m : Method) : List Print :=
  [{ text := "     • " ++ m.signature ++ "  ", endsLine := false },
    { text := m.overridePolicy.text, color := some (policyColor m.overridePolicy) }]

def methodList (c : Contract) : List Print :=
  { text := "   Methods: " ++ Text.natText c.methods.length, color := some .white, bold := true }
    :: c.methods.flatMap methodLine ++ [.blank]

def synthesisText (quiet : Bool) (r : ModelFile.SynthesisReport) : List Print :=
  match r.result with
  | .error e => [{ text := "❌ " ++ e.message, color := some .red }]
  | .ok c => (if quiet then [] else contractHead c) ++ methodList c

def itemLine (text : Text) : Print :=
  .line ("   • " ++ text)

def verdict (r : ModelFile.CheckReport) : List Print :=
  if r.valid then
    [{ text := "✅ Service model is valid", color := some .green, bold := true },
      .line ("   Service: " ++ r.serviceName.getD []),
      .line ("   Context params: " ++ Text.natText r.contextParamCount)]
  else
    { text := "❌ Service model errors:", color := some .red, bold := true }
      :: r.errors.map fun e => itemLine e.message

def warningList (r : ModelFile.CheckReport) : List Print :=
  if r.warnings.isEmpty then []
  else .blank :: { text := "⚠️  Warnings:", color := some .yellow }
    :: r.warnings.map fun w => itemLine w.message

def checkText (r : ModelFile.CheckReport) : List Print :=
  verdict r ++ warningList r ++ [.blank]

def twoPlaces (n : Nat) : String :=
  (if n < 10 then " " else "") ++ Text.natText n

def slotLine (p : Slot × Nat) : Print :=
  .line <| "   " ++ twoPlaces (p.2 + 1) ++ ". " ++ p.1.key
    ++ (if p.1.isDynamic then " (per param)" else "") ++ "  " ++ p.1.description

def catalogText : List Print :=
  { text := "📚 Method catalog", color := some .cyan, bold := true } :: Slot.all.zipIdx.map slotLine

def slotJson (s : Slot) : Json :=
  .object [("key", .string s.key), ("description", .string s.description),
    ("dynamic", .bool s.isDynamic)]

def catalogJson : Json :=
  .array (Slot.all.map slotJson)

end ClientBuilder.CommandLine
