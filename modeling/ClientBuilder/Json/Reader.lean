import ClientBuilder.Json.Basic
import ClientBuilder.Text.Numeral

namespace ClientBuilder.Json

def isSpace (c : Char) : Bool :=
  c = ' ' || c = '\n' || c = '\t' || c = '\r'

def skipSpace (s : List Char) : List Char :=
  s.dropWhile isSpace

def ofUnits (high low : Nat) : CodePoint :=
  .char (Char.ofNat (0x10000 + (high - 0xD800) * 0x400 + (low - 0xDC00)))

def isHigh (unit : Nat) : Bool :=
  0xD800 ≤ unit && unit < 0xDC00

def low? (digits : List Char) : Option Nat :=
  (Text.ofHex? digits).filter fun unit => 0xDC00 ≤ unit && unit < 0xE000

def simpleEscape? (c : Char) : Option Char :=
  match c with
  | '"' => some '"'
  | '\\' => some '\\'
  | '/' => some '/'
  | 'b' => some '\x08'
  | 'f' => some '\x0c'
  | 'n' => some '\n'
  | 'r' => some '\r'
  | 't' => some '\t'
  | _ => none

def readString : List Char → Option (Text × List Char)
  -- A surrogate that is not part of a pair stands alone.
  | [] => none
  | '"' :: r => some ([], r)
  | '\\' :: 'u' :: a :: b :: c :: d :: r => do
    let unit ← Text.ofHex? [a, b, c, d]
    let alone ← CodePoint.ofNat? unit
    match r with
    | '\\' :: 'u' :: e :: f :: g :: h :: r' =>
      match if isHigh unit then low? [e, f, g, h] else none with
      | some low =>
        let (s, rest) ← readString r'
        pure (ofUnits unit low :: s, rest)
      | none =>
        let (s, rest) ← readString ('\\' :: 'u' :: e :: f :: g :: h :: r')
        pure (alone :: s, rest)
    | r =>
      let (s, rest) ← readString r
      pure (alone :: s, rest)
  | '\\' :: e :: r => do
    let x ← simpleEscape? e
    let (s, rest) ← readString r
    pure (.char x :: s, rest)
  | c :: r =>
    if c.toNat < 0x20 then none
    else do
      let (s, rest) ← readString r
      pure (.char c :: s, rest)

def readSigned (s : List Char) : Option (Bool × List Char × List Char) :=
  let (negative, r) := match s with
    | '-' :: r => (true, r)
    | r => (false, r)
  match r.span Char.isDigit with
  | ([], _) => none
  | (digits, rest) => some (negative, digits, rest)

def readExponent : List Char → Option (Int × List Char)
  | [] => none
  | c :: r =>
    if c = 'e' ∨ c = 'E' then
      let r := match r with
        | '+' :: r' => r'
        | r' => r'
      (readSigned r).map fun (negative, digits, rest) =>
        ((if negative then -(Text.ofDecimal digits : Int) else Text.ofDecimal digits), rest)
    else none

def readFraction : List Char → List Char × List Char
  | '.' :: r => match r.span Char.isDigit with
    | ([], _) => ([], '.' :: r)
    | (digits, rest) => (digits, rest)
  | r => ([], r)

def readFinite (s : List Char) : Option (Json × List Char) := do
  let (negative, whole, r) ← readSigned s
  let (fraction, r) := readFraction r
  match readExponent r with
  | some (e, rest) =>
    pure (decimal negative (Text.ofDecimal (whole ++ fraction)) (e - fraction.length), rest)
  | none =>
    if fraction.isEmpty then
      let n : Int := Text.ofDecimal whole
      pure (int (if negative then -n else n), r)
    else pure (decimal negative (Text.ofDecimal (whole ++ fraction)) (-fraction.length), r)

def afterWord? (word s : List Char) : Option (List Char) :=
  if word.isPrefixOf s then some (s.drop word.length) else none

def readNumber (s : List Char) : Option (Json × List Char) :=
  -- A number that is not finite is written as a word.
  ((afterWord? infinityWord s).map fun rest => (infinite false, rest))
    <|> ((afterWord? ('-' :: infinityWord) s).map fun rest => (infinite true, rest))
    <|> ((afterWord? notANumberWord s).map fun rest => (notANumber, rest))
    <|> readFinite s

mutual

def readValue : (fuel : Nat) → List Char → Option (Json × List Char)
  -- Each nesting and each item takes one unit of fuel.
  | 0, _ => none
  | fuel + 1, s =>
    match s with
    | 'n' :: 'u' :: 'l' :: 'l' :: r => some (null, r)
    | 't' :: 'r' :: 'u' :: 'e' :: r => some (bool true, r)
    | 'f' :: 'a' :: 'l' :: 's' :: 'e' :: r => some (bool false, r)
    | '"' :: r => (readString r).map fun (t, rest) => (string t, rest)
    | '[' :: r =>
      match skipSpace r with
      | ']' :: rest => some (array [], rest)
      | r => do
        let (x, r) ← readValue fuel r
        let (xs, rest) ← readItems fuel (skipSpace r)
        pure (array (x :: xs), rest)
    | '\x7b' :: r =>
      match skipSpace r with
      | '\x7d' :: rest => some (object [], rest)
      | '"' :: r => do
        let (x, r) ← readField fuel r
        let (xs, rest) ← readFields fuel (skipSpace r)
        pure (object (x :: xs), rest)
      | _ => none
    | s => readNumber s

def readItems : (fuel : Nat) → List Char → Option (List Json × List Char)
  | 0, _ => none
  | fuel + 1, s =>
    match s with
    | ']' :: rest => some ([], rest)
    | ',' :: r => do
      let (x, r) ← readValue fuel (skipSpace r)
      let (xs, rest) ← readItems fuel (skipSpace r)
      pure (x :: xs, rest)
    | _ => none

def readField : (fuel : Nat) → List Char → Option ((Text × Json) × List Char)
  | 0, _ => none
  | fuel + 1, s => do
    let (name, r) ← readString s
    match skipSpace r with
    | ':' :: r => do
      let (v, rest) ← readValue fuel (skipSpace r)
      pure ((name, v), rest)
    | _ => none

def readFields : (fuel : Nat) → List Char → Option (List (Text × Json) × List Char)
  | 0, _ => none
  | fuel + 1, s =>
    match s with
    | '\x7d' :: rest => some ([], rest)
    | ',' :: r =>
      match skipSpace r with
      | '"' :: r => do
        let (x, r) ← readField fuel r
        let (xs, rest) ← readFields fuel (skipSpace r)
        pure (x :: xs, rest)
      | _ => none
    | _ => none

end

def ofText (s : String) : Option Json :=
  let cs := s.toList
  match readValue (2 * cs.length + 2) (skipSpace cs) with
  | some (j, rest) => if (skipSpace rest).isEmpty then some j else none
  | none => none

end ClientBuilder.Json
