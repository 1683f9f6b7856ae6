import ClientBuilder.Text.Basic
import ClientBuilder.Yaml.Scalar.Time
import ClientBuilder.Yaml.Tag

namespace ClientBuilder.Yaml.Implicit

def boolWords : List String :=
  ["yes", "Yes", "YES", "no", "No", "NO", "true", "True", "TRUE", "false", "False", "FALSE",
    "on", "On", "ON", "off", "Off", "OFF"]

def nullWords : List String :=
  ["", "~", "null", "Null", "NULL"]

def unsigned : List Char → List Char
  | [] => []
  | c :: r => if c = '+' ∨ c = '-' then r else c :: r

def isDigitOrBar (c : Char) : Bool :=
  c.isDigit || c = '_'

def allOf (test : Char → Bool) (s : List Char) : Bool :=
  !s.isEmpty && s.all test

def digits? : List Char → Option (List Char)
  | c :: r => if c.isDigit then some (r.dropWhile isDigitOrBar) else none
  | [] => none

def sixties? : (fuel : Nat) → List Char → Option (List Char)
  -- There has to be one part at least.
  | 0, _ => none
  | fuel + 1, ':' :: a :: r =>
    let next? := match r with
      | b :: r' =>
        if a.isDigit && b.isDigit then (if a ≤ '5' then some r' else none)
        else if a.isDigit then some (b :: r') else none
      | [] => if a.isDigit then some [] else none
    match next? with
    | none => none
    | some (':' :: r') => sixties? fuel (':' :: r')
    | some r' => some r'
  | _, _ => none

def isExponent : List Char → Bool
  -- No exponent counts as well.
  | [] => true
  | e :: sign :: r => (e = 'e' || e = 'E') && (sign = '+' || sign = '-') && allOf Char.isDigit r
  | _ => false

def endsAt (rest : Option (List Char)) (test : List Char → Bool) : Bool :=
  match rest with
  | some r => test r
  | none => false

def isPoint (test : List Char → Bool) : List Char → Bool
  | '.' :: r => test (r.dropWhile isDigitOrBar)
  | _ => false

def isFloat (s : List Char) : Bool :=
  let body := unsigned s
  endsAt (digits? body) (isPoint isExponent)
    || (match s with
      | '.' :: r => endsAt (digits? r) isExponent
      | _ => false)
    || endsAt ((digits? body).bind fun r => sixties? (r.length + 1) r) (isPoint List.isEmpty)
    || [".inf", ".Inf", ".INF"].contains (String.ofList body)
    || [".nan", ".NaN", ".NAN"].contains (String.ofList s)

def isInt (s : List Char) : Bool :=
  match unsigned s with
  | [] => false
  | ['0'] => true
  | '0' :: 'b' :: r => allOf (fun c => c = '0' || c = '1' || c = '_') r
  | '0' :: 'x' :: r => allOf (fun c => (Text.hexValue? c).isSome || c = '_') r
  | '0' :: r => r.all fun c => ('0' ≤ c && c ≤ '7') || c = '_'
  | body =>
    endsAt (digits? body) fun r => r.isEmpty || sixties? (r.length + 1) r == some []

def isTimestamp (s : List Char) : Bool :=
  match Timestamp.ofChars? s with
  | some t => t.fullWidth || t.time.isSome
  | none => false

def counting (s : List Char) : List Char :=
  if 1 < s.length ∧ s.getLast? = some '\n' then s.dropLast else s

/-- The tag of a plain scalar. A surrogate can be part of a text only, like the replacement
characters that it is shown as. -/
def tag (text : Text) : Tag :=
  let s := counting text.chars
  let word := String.ofList s
  if boolWords.contains word then .bool
  else if isFloat s then .float
  else if isInt s then .int
  else if word = "<<" then .merge
  else if nullWords.contains word then .null
  else if isTimestamp s then .timestamp
  else if word = "=" then .value
  else if ["!", "&", "*"].contains word then .unknown
  else .text

end ClientBuilder.Yaml.Implicit
