import ClientBuilder.Setter.Name

namespace ClientBuilder.Setter

theorem isLower_iff (c : Char) : isLower c = true ↔ 97 ≤ c.toNat ∧ c.toNat ≤ 122 := by
  simp only [isLower, Bool.and_eq_true, decide_eq_true_eq]
  exact Iff.rfl

/-- The ASCII capitals, by their numbers. -/
theorem isUpper_iff (c : Char) : isUpper c = true ↔ 65 ≤ c.toNat ∧ c.toNat ≤ 90 := by
  simp only [isUpper, Bool.and_eq_true, decide_eq_true_eq]
  exact Iff.rfl

theorem isDigit_iff (c : Char) : isDigit c = true ↔ 48 ≤ c.toNat ∧ c.toNat ≤ 57 := by
  simp only [isDigit, Bool.and_eq_true, decide_eq_true_eq]
  exact Iff.rfl

theorem isLetter_iff (c : Char) : isLetter c = true ↔ isLower c = true ∨ isUpper c = true :=
  Bool.or_eq_true_iff

theorem isUpper_eq_false_of_isLower {c : Char} (h : isLower c = true) : isUpper c = false := by
  rw [isLower_iff] at h
  rw [← Bool.not_eq_true, isUpper_iff]
  omega

theorem isLower_eq_false_of_isUpper {c : Char} (h : isUpper c = true) : isLower c = false := by
  rw [isUpper_iff] at h
  rw [← Bool.not_eq_true, isLower_iff]
  omega

theorem isLower_eq_false_of_isDigit {c : Char} (h : isDigit c = true) : isLower c = false := by
  rw [isDigit_iff] at h
  rw [← Bool.not_eq_true, isLower_iff]
  omega

theorem isUpper_eq_false_of_isDigit {c : Char} (h : isDigit c = true) : isUpper c = false := by
  rw [isDigit_iff] at h
  rw [← Bool.not_eq_true, isUpper_iff]
  omega

theorem isDigit_eq_false_of_isLetter {c : Char} (h : isLetter c = true) : isDigit c = false := by
  rw [isLetter_iff, isLower_iff, isUpper_iff] at h
  rw [← Bool.not_eq_true, isDigit_iff]
  omega

theorem ne_blank_of_isAlnum {c : Char} (h : isAlnum c = true) : c ≠ ' ' := by
  rintro rfl
  cases h

theorem toNat_ofNat {n : Nat} (h : n < 0xD800) : (Char.ofNat n).toNat = n := by
  have hv : n.isValidChar := Or.inl h
  rw [Char.ofNat, dif_pos hv]
  rfl

theorem toNat_upper {c : Char} (h : isLower c = true) : (upper c).toNat = c.toNat - 32 := by
  have hc := (isLower_iff c).mp h
  rw [upper, if_pos h, toNat_ofNat (by omega)]

theorem isUpper_upper {c : Char} (h : isLower c = true) : isUpper (upper c) = true := by
  have hc := (isLower_iff c).mp h
  rw [isUpper_iff, toNat_upper h]
  omega

theorem upper_of_isDigit {c : Char} (h : isDigit c = true) : upper c = c := by
  rw [upper, isLower_eq_false_of_isDigit h]
  rfl

theorem lower_of_isUpper_eq_false {c : Char} (h : isUpper c = false) : lower c = c := by
  rw [lower, h]
  rfl

theorem toNat_lower {c : Char} (h : isUpper c = true) : (lower c).toNat = c.toNat + 32 := by
  have hc := (isUpper_iff c).mp h
  rw [lower, if_pos h, toNat_ofNat (by omega)]

theorem isLower_lower {c : Char} (h : isUpper c = true) : isLower (lower c) = true := by
  have hc := (isUpper_iff c).mp h
  rw [isLower_iff, toNat_lower h]
  omega

/-- A letter that was made a capital becomes itself again. -/
theorem lower_upper {c : Char} (h : isLower c = true) : lower (upper c) = c := by
  have hc := (isLower_iff c).mp h
  rw [lower, if_pos (isUpper_upper h), toNat_upper h, Nat.sub_add_cancel (by omega),
    Char.ofNat_toNat]

end ClientBuilder.Setter
