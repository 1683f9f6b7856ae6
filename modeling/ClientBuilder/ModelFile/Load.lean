import ClientBuilder.ModelFile.Document
import ClientBuilder.ModelFile.Search
import ClientBuilder.Text.Lines
import ClientBuilder.Value.OfYaml

/-!
Loading the capability model of a model file: the file has to be there, to be readable, and to hold
a YAML mapping that is a model document.
-/

namespace ClientBuilder.ModelFile

def loadComponent : String :=
  "config.loader"

def readingRecord (p : Path) : Logging.Record :=
  .debug loadComponent ("Loading service model from " ++ p.text)

def paramCount (m : Capability) : Nat :=
  m.clientContextParams.size + m.customClientContextParams.size

def loadedRecord (m : Capability) : Logging.Record :=
  .info loadComponent <|
    "Loaded service model '" ++ m.serviceName ++ "' with " ++ Text.natText (paramCount m)
      ++ " context params"

def decodeText (content : List UInt8) : Except Failure String :=
  match Text.ofUtf8? content with
  | some s => .ok (String.ofList (Text.unifyLineEnds s.toList))
  | none => .error (.fault .notUnicode)

def parseText (p : Path) (text : String) : Except Failure Value :=
  -- The path is for messages.
  match Value.ofYaml text with
  | .error .malformed => .error (.reported (.invalidYaml p.text))
  | .error (.scalar fault) => .error (.fault (.scalar fault))
  | .error .tooDeep => .error (.fault .tooDeep)
  | .ok (.mapping pairs) => .ok (.mapping pairs)
  | .ok v => .error (.reported (.notMapping p.text v.kind))

def followed {α : Type} (x : Except PathError α) : Logged Failure α :=
  Logged.ofExcept (x.mapError fun e => .fault (.path e))

def readDocument (t : FileTree) (p : Path) : Logged Failure Value := do
  match ← followed (t.find? p) with
  | some (.file content) =>
    Logged.log (readingRecord p)
    Logged.ofExcept ((decodeText content).bind (parseText p))
  | some (.unreadable code reason) =>
    Logged.log (readingRecord p)
    Logged.fail (.reported (.unreadable p.text code reason))
  | _ => Logged.fail (.reported (.fileNotFound p.text))

def loadFrom (t : FileTree) (p : Path) : Logged Failure Capability := do
  let m ← ModelDocument.toCapability (← readDocument t p)
  Logged.log (loadedRecord m)
  return m

def load (t : FileTree) (path : Option Path := none) : Logged Failure Capability := do
  match ← followed (choose t path) with
  | some p => loadFrom t p
  | none => Logged.fail (.reported .noModelFile)

end ClientBuilder.ModelFile
