import ClientBuilder.Text.Numeral

namespace ClientBuilder.Yaml.Binary

def sixBits? (c : Char) : Option Nat :=
  if c.isUpper then some (c.toNat - 0x41)
  else if c.isLower then some (c.toNat - 0x47)
  else if c.isDigit then some (c.toNat + 4)
  else if c = '+' then some 62
  else if c = '/' then some 63
  else none

structure Group where
  -- How many characters of the group have been read.
  filled : Nat := 0
  -- The bits that are left over from the last one.
  left : Nat := 0
  -- How many equals signs have been read since.
  pads : Nat := 0

def decodeFrom (g : Group) : List Char → Option (List UInt8)
  -- Nothing if the last group is not filled up.
  | [] => if g.filled = 0 then some [] else none
  | c :: r =>
    if c = '=' then
      if g.filled < 2 then decodeFrom g r
      else if 4 ≤ g.filled + g.pads + 1 then some []
      else decodeFrom { g with pads := g.pads + 1 } r
    else
      match sixBits? c with
      | none => decodeFrom g r
      | some bits =>
        match g.filled with
        | 0 => decodeFrom ⟨1, bits, 0⟩ r
        | 1 => (decodeFrom ⟨2, bits % 16, 0⟩ r).map (UInt8.ofNat (g.left * 4 + bits / 16) :: ·)
        | 2 => (decodeFrom ⟨3, bits % 4, 0⟩ r).map (UInt8.ofNat (g.left * 16 + bits / 4) :: ·)
        | _ => (decodeFrom ⟨0, 0, 0⟩ r).map (UInt8.ofNat (g.left * 64 + bits) :: ·)

def decode? (s : List Char) : Option (List UInt8) :=
  if s.all fun c => c.toNat < 128 then decodeFrom {} s else none

end ClientBuilder.Yaml.Binary
