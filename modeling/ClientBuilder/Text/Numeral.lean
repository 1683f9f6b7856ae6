namespace ClientBuilder.Text

def decimal (n : Nat) : List Char :=
  Nat.toDigits 10 n

def decimalLimit : Nat :=
  4300

def isOverlong (n : Int) : Bool :=
  decimalLimit < (decimal n.natAbs).length

def signedDecimal : Int → List Char
  | .ofNat n => decimal n
  | .negSucc n => '-' :: decimal (n + 1)

def hexDigit (n : Nat) : Char :=
  if n < 10 then Char.ofNat (0x30 + n) else Char.ofNat (0x57 + n)

def hex : (width : Nat) → Nat → List Char
  | 0, _ => []
  | w + 1, n => hex w (n / 16) ++ [hexDigit (n % 16)]

def hexValue? (c : Char) : Option Nat :=
  if '0' ≤ c ∧ c ≤ '9' then some (c.toNat - 0x30)
  else if 'a' ≤ c ∧ c ≤ 'f' then some (c.toNat - 0x57)
  else if 'A' ≤ c ∧ c ≤ 'F' then some (c.toNat - 0x37)
  else none

def ofHex? (s : List Char) : Option Nat :=
  s.foldlM (fun n c => (hexValue? c).map (16 * n + ·)) 0

def digitValue (c : Char) : Nat :=
  c.toNat - 0x30

def ofDecimal (s : List Char) : Nat :=
  s.foldl (fun n c => 10 * n + digitValue c) 0

def natText (n : Nat) : String :=
  String.ofList (decimal n)

def intText (n : Int) : String :=
  String.ofList (signedDecimal n)

theorem hex_length (width n : Nat) : (hex width n).length = width := by
  induction width generalizing n with
  | zero => rfl
  | succ w ih => simp [hex, ih]

/-- Every hexadecimal digit is read back. -/
theorem hexValue?_hexDigit : ∀ n, n < 16 → hexValue? (hexDigit n) = some n := by
  decide

end ClientBuilder.Text
