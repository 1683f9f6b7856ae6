import ClientBuilder.Text.Numeral
import ClientBuilder.Text.Utf8
import ClientBuilder.Yaml.Error
import ClientBuilder.Yaml.Cursor
import ClientBuilder.Yaml.Token

namespace ClientBuilder.Yaml

def isNameChar (c : Char) : Bool :=
  c.isAlphanum || c = '-' || c = '_'

def isTagChar (c : Char) : Bool :=
  c.isAlphanum || "-;/?:@&=+$,_.!~*'()[]".toList.contains c

abbrev Lexeme :=
  Result (String × Cursor)

def scanName (c : Cursor) : Lexeme := do
  let (name, c) := c.takeWhile isNameChar
  require (!name.isEmpty)
  return (String.ofList name, c)

def endsAnchor : Option Char → Bool
  | none => true
  | some c => endsToken (some c) || "?:,]\x7d%@\x60".toList.contains c

def scanAnchor (c : Cursor) : Lexeme := do
  -- The cursor is at the mark.
  let (name, c) ← scanName c.advance
  require (endsAnchor c.next?)
  return (name, c)

def scanHandle (c : Cursor) : Lexeme := do
  require (c.startsWith '!')
  if (c.peek? 1) == some ' ' then return ("!", c.advance)
  let (name, c') := c.advance.takeWhile isNameChar
  require (c'.startsWith '!')
  return (String.ofList ('!' :: name ++ ['!']), c'.advance)

def scanEscapes : (fuel : Nat) → List UInt8 → Cursor → Result (List UInt8 × Cursor)
  | 0, acc, c => .ok (acc, c)
  | fuel + 1, acc, c =>
    match c.rest with
    | '%' :: a :: b :: _ =>
      match Text.ofHex? [a, b] with
      | some n => scanEscapes fuel (acc ++ [UInt8.ofNat n]) (c.forward 3)
      | none => malformed
    | '%' :: _ => malformed
    | _ => .ok (acc, c)

def scanTagText : (fuel : Nat) → List Char → Cursor → Result (List Char × Cursor)
  -- Percent escapes stand for the bytes of characters in UTF-8.
  | 0, acc, c => .ok (acc, c)
  | fuel + 1, acc, c =>
    match c.next? with
    | some '%' => do
      let (bytes, c) ← scanEscapes (c.rest.length + 1) [] c
      match Text.ofUtf8? bytes with
      | some s => scanTagText fuel (acc ++ s.toList) c
      | none => malformed
    | some x => if isTagChar x then scanTagText fuel (acc ++ [x]) c.advance else .ok (acc, c)
    | none => .ok (acc, c)

def scanTagRest (c : Cursor) : Lexeme := do
  let (text, c) ← scanTagText (c.rest.length + 1) [] c
  require (!text.isEmpty)
  return (String.ofList text, c)

def hasHandle (c : Cursor) : Bool :=
  (c.advance.rest.takeWhile fun x => !endsWord (some x)).contains '!'

def scanTag (c : Cursor) : Result (Token × Cursor) := do
  -- The cursor is at the mark.
  let (token, c) ← (do
    if (c.peek? 1) == some '<' then
      let (rest, c) ← scanTagRest (c.forward 2)
      require (c.startsWith '>')
      return (Token.tag none rest, c.advance)
    else if endsToken (c.peek? 1) then return (Token.tag none "!", c.advance)
    else if hasHandle c then
      let (handle, c) ← scanHandle c
      let (rest, c) ← scanTagRest c
      return (Token.tag (some handle) rest, c)
    else
      let (rest, c) ← scanTagRest c.advance
      return (Token.tag (some "!") rest, c) : Result (Token × Cursor))
  require (endsWord c.next?)
  return (token, c)

def scanNumber (c : Cursor) : Result (Nat × Cursor) := do
  let (digits, c) := c.takeWhile Char.isDigit
  require (!digits.isEmpty)
  if Text.decimalLimit < digits.length then throw (.scalar .badValue)
  return (Text.ofDecimal digits, c)

def scanVersion (c : Cursor) : Result (Token × Cursor) := do
  let (major, c) ← scanNumber c.skipBlanks
  require (c.startsWith '.')
  let (_, c) ← scanNumber c.advance
  require (endsWord c.next?)
  return (.versionDirective major, c)

def scanTagDirective (c : Cursor) : Result (Token × Cursor) := do
  let (handle, c) ← scanHandle c.skipBlanks
  require (c.startsWith ' ')
  let (start, c) ← scanTagRest c.skipBlanks
  require (endsWord c.next?)
  return (.tagDirective handle start, c)

def scanDirective (c : Cursor) : Result (Token × Cursor) := do
  -- The cursor is at the mark.
  let (name, c) ← scanName c.advance
  require (endsWord c.next?)
  let (token, c) ←
    if name = "YAML" then scanVersion c
    else if name = "TAG" then scanTagDirective c
    else pure (Token.otherDirective, c.skipWhile (!isBreak ·))
  match c.restOfLine? with
  | some c => return (token, c)
  | none => malformed

end ClientBuilder.Yaml
