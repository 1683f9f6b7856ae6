import ClientBuilder.Text.Basic

namespace ClientBuilder.Text

def ofUtf8? (bytes : List UInt8) : Option String :=
  String.fromUTF8? ⟨bytes.toArray⟩

/-- A character of which some bytes have been read; those to come lie between the bounds. -/
structure OpenChar where
  code : Nat
  bounds : List (Nat × Nat)

namespace OpenChar

def start? (byte : Nat) : Option OpenChar :=
  let any := (0x80, 0xBF)
  -- Narrower bounds keep out overlong spellings, surrogates and numbers beyond all characters.
  if byte < 0x80 then some ⟨byte, []⟩
  else if byte < 0xC2 then none
  else if byte < 0xE0 then some ⟨byte - 0xC0, [any]⟩
  else if byte < 0xF0 then
    let second := (if byte = 0xE0 then 0xA0 else 0x80, if byte = 0xED then 0x9F else 0xBF)
    some ⟨byte - 0xE0, [second, any]⟩
  else if byte < 0xF5 then
    let second := (if byte = 0xF0 then 0x90 else 0x80, if byte = 0xF4 then 0x8F else 0xBF)
    some ⟨byte - 0xF0, [second, any, any]⟩
  else none

def extend? : OpenChar → Nat → Option OpenChar
  | ⟨code, (low, high) :: more⟩, byte =>
    if low ≤ byte ∧ byte ≤ high then some ⟨code * 64 + byte % 64, more⟩ else none
  | ⟨_, []⟩, _ => none

def settled (c : OpenChar) : List Char × Option OpenChar :=
  if c.bounds.isEmpty then ([Char.ofNat c.code], none) else ([], some c)

end OpenChar

def givenUp (open? : Option OpenChar) : List Char :=
  if open?.isSome then ['\uFFFD'] else []

def readByte (open? : Option OpenChar) (byte : Nat) : List Char × Option OpenChar :=
  match open?.bind (·.extend? byte) with
  | some c => c.settled
  | none =>
    match OpenChar.start? byte with
    | some c => (givenUp open? ++ c.settled.1, c.settled.2)
    | none => (givenUp open? ++ ['\uFFFD'], none)

/-- The characters of some bytes. Each longest row that could have begun a character and does not
come to its end is shown as one replacement character, as is any other byte of no character. -/
def shownBytes (open? : Option OpenChar) : List UInt8 → List Char
  | [] => givenUp open?
  | byte :: r =>
    let (chars, next) := readByte open? byte.toNat
    chars ++ shownBytes next r

end ClientBuilder.Text
