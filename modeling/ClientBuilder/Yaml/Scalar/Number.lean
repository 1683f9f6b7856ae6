import ClientBuilder.Text.Blank
import ClientBuilder.Text.DecimalDigit
import ClientBuilder.Text.Numeral
import ClientBuilder.Value.OfJson
import ClientBuilder.Yaml.Error

namespace ClientBuilder.Yaml.Number

abbrev Outcome (α : Type) :=
  Except ScalarFault α

def plainDigits (s : List Char) : List Char :=
  s.map fun c =>
    match Text.decimalDigit? c with
    | some d => Char.ofNat (0x30 + d)
    | none => c

def digit? (base : Nat) (c : Char) : Option Nat :=
  let value? := if c.isDigit then some (Text.digitValue c)
    else if c.isLower then some (c.toNat - 0x57)
    else if c.isUpper then some (c.toNat - 0x37)
    else none
  value?.filter (· < base)

def natural? (base : Nat) (s : List Char) : Option Nat :=
  if s.isEmpty then none
  else s.foldlM (fun n c => (digit? base c).map (base * n + ·)) 0

def baseMark? (base : Nat) : Option Char :=
  if base = 2 then some 'b' else if base = 8 then some 'o' else if base = 16 then some 'x' else none

def withoutMark (base : Nat) (s : List Char) : List Char :=
  match s with
  | '0' :: m :: r => if some m.toLower = baseMark? base then r else s
  | _ => s

def integer? (base : Nat) (s : List Char) : Option Int :=
  let (negative, body) := match plainDigits (Text.strip s) with
    | '-' :: r => (true, r)
    | '+' :: r => (false, r)
    | r => (false, r)
  let body := withoutMark base body
  if base = 10 ∧ Text.decimalLimit < body.length then none
  else (natural? base body).map fun n => if negative then -(n : Int) else n

def parts (s : List Char) : List (List Char) :=
  s.splitOn ':'

def orBad {α : Type} : Option α → Outcome α
  | some a => .ok a
  | none => .error .badValue

def sixtiesInt (s : List Char) : Option Int := do
  let digits ← (parts s).mapM (integer? 10)
  return digits.foldl (fun n d => 60 * n + d) 0

/-- An integer without a sign before it: to the base two, sixteen or eight by its start, to the base
of sixty by its colons, and otherwise decimal. -/
def unsignedInt (s : List Char) : Outcome Int :=
  match s with
  | [] => .error .emptyNumber
  | ['0'] => .ok 0
  | '0' :: 'b' :: r => orBad (integer? 2 r)
  | '0' :: 'x' :: r => orBad (integer? 16 r)
  | '0' :: r => orBad (integer? 8 ('0' :: r))
  | s => if s.contains ':' then orBad (sixtiesInt s) else orBad (integer? 10 s)

def withoutBars (text : List Char) : List Char :=
  text.filter (· ≠ '_')

def int (text : List Char) : Outcome Int :=
  match withoutBars text with
  | [] => .error .emptyNumber
  | '-' :: r => (unsignedInt r).map (-·)
  | '+' :: r => unsignedInt r
  | s => unsignedInt s

def fraction (s : List Char) : List Char × Nat × List Char :=
  let (whole, r) := s.span Char.isDigit
  match r with
  | '.' :: r =>
    let (part, r) := r.span Char.isDigit
    (whole ++ part, part.length, r)
  | r => (whole, 0, r)

def exponent? : List Char → Option Int
  | [] => some 0
  | 'e' :: '-' :: r => (natural? 10 r).map fun n => -(n : Int)
  | 'e' :: '+' :: r => (natural? 10 r).map fun n => (n : Int)
  | 'e' :: r => (natural? 10 r).map fun n => (n : Int)
  | _ => none

def decimal? (s : List Char) : Option Float :=
  let (digits, places, r) := fraction s
  if digits.isEmpty then none
  else (exponent? r).map fun e => Value.floatOfDecimal false (Text.ofDecimal digits) (e - places)

def float? (s : List Char) : Option Float :=
  let (negative, body) := match plainDigits (Text.strip s) with
    | '-' :: r => (true, r)
    | '+' :: r => (false, r)
    | r => (false, r)
  let x? := if ["inf", "infinity"].contains (String.ofList body) then some (Value.infinity false)
    else if String.ofList body = "nan" then some (0.0 / 0.0)
    else decimal? body
  x?.map fun x => if negative then -x else x

def addSixties : (base : Nat) → (sum : Float) → List Float → Outcome Float
  | _, sum, [] => .ok sum
  | base, sum, d :: r =>
    let factor := Float.ofNat base
    if factor.isInf then .error .numberTooLarge
    else addSixties (60 * base) (sum + d * factor) r

def sixtiesFloat (s : List Char) : Outcome Float := do
  let digits ← orBad ((parts s).mapM float?)
  addSixties 1 0.0 digits.reverse

def unsignedFloat (s : List Char) : Outcome Float :=
  if s.contains ':' then sixtiesFloat s else orBad (float? s)

def floatParts? (text : List Char) : Option (Bool × List Char) :=
  -- Nothing if there is not even a sign.
  match (withoutBars text).map Char.toLower with
  | [] => none
  | '-' :: r => some (true, r)
  | '+' :: r => some (false, r)
  | r => some (false, r)

def nanWord : List Char :=
  ".nan".toList

def isNanWord (text : List Char) : Bool :=
  (floatParts? text).any fun p => p.2 = nanWord

def float (text : List Char) : Outcome Float :=
  match floatParts? text with
  | none => .error .emptyNumber
  | some (negative, r) =>
    if r = ".inf".toList then .ok (Value.infinity negative)
    else if r = nanWord then .ok (0.0 / 0.0)
    else (unsignedFloat r).map fun x => if negative then -x else x

end ClientBuilder.Yaml.Number
