import ClientBuilder.OrderedMap
import ClientBuilder.Validation.Checked
import ClientBuilder.Value.Literal

/-!
Decoders: how document values are read as texts, flags, lists, mappings and records. A text may be
given as bytes in UTF-8, a list as a tuple or a set, and a flag as one of the words and numbers that
stand for true and false.
-/

namespace ClientBuilder.Validation

abbrev Decoder (α : Type) :=
  Value → Checked α

abbrev Pairs :=
  List (Value × Value)

def text : Decoder Text
  | .text s => .ok s
  | .bytes content =>
    match (Value.bytes content).asText? with
    | some s => .ok s
    | none => .fail .textNotUnicode .bytes
  | v => .fail .notText v.kind

def trueWords : List String :=
  ["1", "true", "t", "yes", "y", "on"]

def falseWords : List String :=
  ["0", "false", "f", "no", "n", "off"]

def flagOfWord? (s : Text) : Option Bool :=
  -- The case of ASCII letters does not matter.
  let w := String.ofList (s.chars.map Char.toLower)
  if trueWords.contains w then some true
  else if falseWords.contains w then some false
  else none

def flagOfInt? (n : Int) : Option Bool :=
  if n = 1 then some true else if n = 0 then some false else none

def wordLimit : Int :=
  9223372036854775808

def fitsWord (n : Int) : Bool :=
  -wordLimit ≤ n && n < wordLimit

def flagOr (kind : Kind) : Option Bool → Checked Bool
  | some b => .ok b
  | none => .fail .flagUnreadable kind

def flag : Decoder Bool
  -- A number that is no integer, or none of 64 bits, is of a wrong kind.
  | .bool b => .ok b
  | .int n => if fitsWord n then flagOr .int (flagOfInt? n) else .fail .notFlag .int
  | .float x =>
    match Decimal.Binary.ofFloat x with
    | .finite d =>
      match d.toInt? with
      | some n =>
        if -wordLimit < n ∧ n < wordLimit then flagOr .float (flagOfInt? n)
        else .fail .notFlag .float
      | none => .fail .notFlag .float
    | _ => .fail .notFlag .float
  | .text s =>
    if s.isWhole then flagOr .text (flagOfWord? s) else .fail .textNotUnicode .text
  | .bytes content => flagOr .bytes ((Value.bytes content).asText?.bind flagOfWord?)
  | v => .fail .notFlag v.kind

variable {α : Type}

def nullable (d : Decoder α) : Decoder (Option α)
  | .null => .ok none
  | v => some <$> d v

def items (d : Decoder α) (index : Nat) : List Value → Checked (List α)
  | [] => .ok []
  | v :: r => List.cons <$> (d v).within (.index index) <*> items d (index + 1) r

def list (d : Decoder α) : Decoder (List α)
  | .list vs => items d 0 vs
  | .tuple vs => items d 0 vs
  | .set vs => items d 0 vs
  | v => .fail .notList v.kind

def entry (d : Decoder α) (p : Value × Value) : Checked (Text × α) :=
  -- Key and value are both looked at.
  let name := Step.key p.1.keyName
  Prod.mk <$> ((text p.1).within keyStep).within name <*> (d p.2).within name

def entries (d : Decoder α) : Pairs → Checked (List (Text × α))
  | [] => .ok []
  | p :: r => List.cons <$> entry d p <*> entries d r

def mappingOf (d : Decoder α) : Decoder (OrderedMap α)
  | .mapping pairs => OrderedMap.ofList <$> entries d pairs
  | v => .fail .notMapping v.kind

def record (shape : Shape) (fields : Pairs → Checked α) : Decoder α
  | .mapping pairs => fields pairs
  | v => .fail (.notShape shape) v.kind

def given? (pairs : Pairs) (spellings : List String) : Option (String × Value) :=
  spellings.findSome? fun (s : String) => (Value.lookup pairs s).map fun v => (s, v)

def required (spellings : List String) (d : Decoder α) (pairs : Pairs) : Checked α :=
  -- If it is not given, its first spelling is named.
  match given? pairs spellings with
  | some (s, v) => (d v).within (.key s)
  | none => .within (.key (spellings.headD "")) (.fail .missing .mapping)

def optional (spellings : List String) (absent : α) (d : Decoder α) (pairs : Pairs) : Checked α :=
  match given? pairs spellings with
  | some (s, v) => (d v).within (.key s)
  | none => .ok absent

end ClientBuilder.Validation
