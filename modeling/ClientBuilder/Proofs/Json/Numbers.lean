import ClientBuilder.Json.Printer
import ClientBuilder.Json.Reader
import Mathlib.Data.List.TakeDrop

namespace ClientBuilder

namespace Text

theorem isDigit_of_mem_decimal {n : Nat} {c : Char} (h : c ∈ decimal n) : c.isDigit = true :=
  Nat.isDigit_of_mem_toDigits (by decide) (by decide) h

theorem ofDecimal_decimal (n : Nat) : ofDecimal (decimal n) = n :=
  Nat.ofDigitChars_toDigits (by decide) (by decide)

theorem decimal_eq_cons (n : Nat) : ∃ d r, decimal n = d :: r ∧ d.isDigit = true := by
  cases h : decimal n with
  | nil => exact absurd h Nat.toDigits_ne_nil
  | cons d r => exact ⟨d, r, rfl, isDigit_of_mem_decimal (h ▸ List.mem_cons_self)⟩

end Text

namespace Json

def Stops (rest : List Char) : Prop :=
  ∀ c r, rest = c :: r → c.isDigit = false ∧ c ≠ '.' ∧ c ≠ 'e' ∧ c ≠ 'E'

theorem Stops.of_cons {c : Char} (r : List Char)
    (h : c.isDigit = false ∧ c ≠ '.' ∧ c ≠ 'e' ∧ c ≠ 'E') : Stops (c :: r) := by
  rintro _ _ ⟨rfl, rfl⟩
  exact h

theorem signedDecimal_eq (n : Int) :
    Text.signedDecimal n = minus (decide (n < 0)) ++ Text.decimal n.natAbs := by
  cases n with
  | ofNat n => rfl
  | negSucc n =>
    rw [decide_eq_true (Int.negSucc_lt_zero n)]
    rfl

theorem ofSign (n : Int) : (if decide (n < 0) = true then -(n.natAbs : Int) else n.natAbs) = n := by
  by_cases h : n < 0
  · rw [if_pos (decide_eq_true h)]
    omega
  · rw [if_neg (by simpa using h)]
    omega

/-- A decimal number is read to its end and no further. -/
theorem span_decimal (n : Nat) {rest : List Char}
    (h : ∀ c r, rest = c :: r → c.isDigit = false) :
    (Text.decimal n ++ rest).span Char.isDigit = (Text.decimal n, rest) := by
  have hall : ∀ c ∈ Text.decimal n, c.isDigit = true := fun c hc => Text.isDigit_of_mem_decimal hc
  have hrest : rest.takeWhile Char.isDigit = [] ∧ rest.dropWhile Char.isDigit = rest := by
    cases rest with
    | nil => exact ⟨rfl, rfl⟩
    | cons c r => simp [h c r rfl]
  rw [List.span_eq_takeWhile_dropWhile, List.takeWhile_append_of_pos hall,
    List.dropWhile_append_of_pos hall, hrest.1, hrest.2, List.append_nil]

/-- A written whole number is read with its sign, up to what follows. -/
theorem readSigned_decimal (negative : Bool) (n : Nat) {rest : List Char}
    (h : ∀ c r, rest = c :: r → c.isDigit = false) :
    readSigned (minus negative ++ (Text.decimal n ++ rest)) =
      some (negative, Text.decimal n, rest) := by
  obtain ⟨d, r, hd, hdigit⟩ := Text.decimal_eq_cons n
  have hspan := span_decimal n h
  rw [hd] at hspan ⊢
  cases negative with
  | true =>
    rw [minus, if_pos rfl, List.singleton_append, readSigned, hspan]
  | false =>
    have hsign : d ≠ '-' := by
      rintro rfl
      cases hdigit
    rw [minus, if_neg Bool.false_ne_true, List.nil_append, readSigned, hspan]
    intro r' hr
    exact hsign (List.cons.inj hr).1

/-- A written exponent is read, up to what follows. -/
theorem readExponent_signedDecimal (e : Int) {rest : List Char} (h : Stops rest) :
    readExponent ('e' :: (Text.signedDecimal e ++ rest)) = some (e, rest) := by
  obtain ⟨d, r, hd, hdigit⟩ := Text.decimal_eq_cons e.natAbs
  have hplus : ∀ r', Text.signedDecimal e ++ rest ≠ '+' :: r' := by
    intro r' hr
    rw [signedDecimal_eq, hd] at hr
    cases hs : decide (e < 0) with
    | true =>
      rw [hs] at hr
      cases hr
    | false =>
      rw [hs] at hr
      cases hr
      cases hdigit
  have hsigned := readSigned_decimal (decide (e < 0)) e.natAbs fun c r hr => (h c r hr).1
  rw [← List.append_assoc, ← signedDecimal_eq] at hsigned
  rw [readExponent, if_pos (Or.inl rfl)]
  · dsimp only
    rw [hsigned, Option.map_some, Text.ofDecimal_decimal, ofSign]
  · exact hplus

theorem readExponent_of_stops {rest : List Char} (h : Stops rest) : readExponent rest = none := by
  cases rest with
  | nil => rfl
  | cons c r =>
    obtain ⟨-, -, he, hE⟩ := h c r rfl
    exact if_neg (not_or.mpr ⟨he, hE⟩)

theorem readFraction_of_ne {rest : List Char} (h : ∀ r, rest ≠ '.' :: r) :
    readFraction rest = ([], rest) := by
  rw [readFraction]
  exact h

/-- A written integer is read back. -/
theorem readFinite_signedDecimal (n : Int) {rest : List Char} (h : Stops rest) :
    readFinite (Text.signedDecimal n ++ rest) = some (int n, rest) := by
  have hpoint : ∀ r, rest ≠ '.' :: r := fun r hr => (h _ r hr).2.1 rfl
  rw [signedDecimal_eq, List.append_assoc, readFinite,
    readSigned_decimal _ _ fun c r hr => (h c r hr).1]
  simp only [Option.bind_eq_bind, Option.bind_some, readFraction_of_ne hpoint,
    readExponent_of_stops h, List.isEmpty_nil, if_true, Text.ofDecimal_decimal, ofSign]
  rfl

/-- A written number with an exponent is read back. -/
theorem readFinite_decimal (negative : Bool) (c : Nat) (e : Int) {rest : List Char}
    (h : Stops rest) :
    readFinite (minus negative ++ Text.decimal c ++ 'e' :: Text.signedDecimal e ++ rest) =
      some (decimal negative c e, rest) := by
  have hletter : ∀ d r, 'e' :: (Text.signedDecimal e ++ rest) = d :: r → d.isDigit = false := by
    rintro _ _ ⟨rfl, rfl⟩
    rfl
  have hpoint : ∀ r, 'e' :: (Text.signedDecimal e ++ rest) ≠ '.' :: r := by
    rintro r ⟨⟩
  rw [List.append_assoc, List.append_assoc, List.cons_append, readFinite,
    readSigned_decimal _ _ hletter]
  simp only [Option.bind_eq_bind, Option.bind_some, readFraction_of_ne hpoint,
    readExponent_signedDecimal e h, List.append_nil, Text.ofDecimal_decimal, List.length_nil,
    Int.natCast_zero, Int.sub_zero]
  rfl

theorem infinityWord_eq : infinityWord = ['I', 'n', 'f', 'i', 'n', 'i', 't', 'y'] := by
  decide

theorem notANumberWord_eq : notANumberWord = ['N', 'a', 'N'] := by
  decide

/-- What starts as a written whole number is none of the words. -/
theorem readNumber_of_digits (negative : Bool) (n : Nat) (rest : List Char) :
    readNumber (minus negative ++ (Text.decimal n ++ rest)) =
      readFinite (minus negative ++ (Text.decimal n ++ rest)) := by
  obtain ⟨d, r, hd, hdigit⟩ := Text.decimal_eq_cons n
  have hne {c : Char} (hc : c.isDigit = false) : c ≠ d := by
    rintro rfl
    rw [hc] at hdigit
    cases hdigit
  have hI : 'I' ≠ d := hne rfl
  have hN : 'N' ≠ d := hne rfl
  have hminus : '-' ≠ d := hne rfl
  rw [hd]
  cases negative with
  | true => simp [readNumber, afterWord?, infinityWord_eq, notANumberWord_eq, minus, hI]
  | false =>
    simp [readNumber, afterWord?, infinityWord_eq, notANumberWord_eq, minus, hI, hN, hminus]

theorem readNumber_signedDecimal (n : Int) {rest : List Char} (h : Stops rest) :
    readNumber (Text.signedDecimal n ++ rest) = some (int n, rest) := by
  rw [← readFinite_signedDecimal n h, signedDecimal_eq, List.append_assoc, readNumber_of_digits]

/-- A number with an exponent is read back with its sign. -/
theorem readNumber_decimal (negative : Bool) (c : Nat) (e : Int) {rest : List Char}
    (h : Stops rest) :
    readNumber (minus negative ++ Text.decimal c ++ 'e' :: Text.signedDecimal e ++ rest) =
      some (decimal negative c e, rest) := by
  rw [← readFinite_decimal negative c e h, List.append_assoc, List.append_assoc,
    readNumber_of_digits]

theorem readNumber_infinite (negative : Bool) (rest : List Char) :
    readNumber (minus negative ++ infinityWord ++ rest) = some (infinite negative, rest) := by
  cases negative <;> simp [readNumber, afterWord?, infinityWord_eq, minus]

theorem readNumber_notANumber (rest : List Char) :
    readNumber (notANumberWord ++ rest) = some (notANumber, rest) := by
  simp [readNumber, afterWord?, infinityWord_eq, notANumberWord_eq]

end Json

end ClientBuilder
