import ClientBuilder.Text.Basic
import ClientBuilder.Text.Ranges

namespace ClientBuilder.Text

def whiteSpaceRanges : List (Nat × Nat) :=
  [(0x09, 0x0D), (0x20, 0x20), (0x85, 0x85), (0xA0, 0xA0), (0x1680, 0x1680), (0x2000, 0x200A),
    (0x2028, 0x2029), (0x202F, 0x202F), (0x205F, 0x205F), (0x3000, 0x3000)]

def isWhiteSpace (c : Char) : Bool :=
  inRanges whiteSpaceRanges c.toNat

def isSeparator (c : Char) : Bool :=
  '\x1c' ≤ c && c ≤ '\x1f'

def isBlankPoint : CodePoint → Bool
  -- A surrogate is not blank.
  | .char c => isWhiteSpace c || isSeparator c
  | .surrogate _ => false

def isBlank (t : Text) : Bool :=
  t.all isBlankPoint

def strip (s : List Char) : List Char :=
  ((s.dropWhile isWhiteSpace).reverse.dropWhile isWhiteSpace).reverse

end ClientBuilder.Text
