import ClientBuilder.Value.Basic
import ClientBuilder.Yaml.Scalar.Binary
import ClientBuilder.Yaml.Scalar.Implicit
import ClientBuilder.Yaml.Scalar.Number

namespace ClientBuilder.Yaml

def truthWords : List (String × Bool) :=
  [("yes", true), ("no", false), ("true", true), ("false", false), ("on", true), ("off", false)]

def truth (text : List Char) : Result Value :=
  match truthWords.lookup (String.ofList (text.map Char.toLower)) with
  | some b => .ok (.bool b)
  | none => .error (.scalar .unknownWord)

def timeValue (text : List Char) : Result Value :=
  match Timestamp.ofChars? (Implicit.counting text) with
  | none => .error (.scalar .noTime)
  | some t =>
    match t.time with
    | some m => if m.exists? then .ok (.moment m) else .error (.scalar .badValue)
    | none => if t.date.exists? then .ok (.date t.date) else .error (.scalar .badValue)

def ofNumber {α : Type} (f : α → Value) : Number.Outcome α → Result Value
  | .ok a => .ok (f a)
  | .error e => .error (.scalar e)

/-- The value of a text under a tag for scalars. Only a text can hold a surrogate; elsewhere it is
as good as the replacement characters that it is shown as, which stand for nothing. -/
def scalarValue (tag : Tag) (text : Text) : Result Value :=
  match tag with
  | .null => .ok .null
  | .bool => truth text.chars
  | .int => ofNumber .int (Number.int text.chars)
  | .float => ofNumber .float (Number.float text.chars)
  | .binary =>
    match Binary.decode? text.chars with
    | some bytes => .ok (.bytes bytes)
    | none => malformed
  | .timestamp => timeValue text.chars
  | .text => .ok (.text text)
  | _ => malformed

end ClientBuilder.Yaml
