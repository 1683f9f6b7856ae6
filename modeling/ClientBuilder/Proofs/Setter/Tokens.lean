import ClientBuilder.Proofs.Setter.Passes

namespace ClientBuilder.Setter

/-- A word as it stands in a name: at least two letters and then digits. -/
structure Token where
  head : Char
  second : Char
  more : List Char
  digits : List Char
  -- All letters are capitals. Otherwise, all but the first one are small.
  capitals : Bool
  isLetter_head : isLetter head = true
  isUpper_head : capitals = true → isUpper head = true
  letters_class : ∀ c ∈ second :: more,
    if capitals = true then isUpper c = true else isLower c = true
  digits_class : ∀ c ∈ digits, isDigit c = true
  no_version : second = 'v' → more = [] → digits = []

namespace Token

def body (t : Token) : List Char :=
  t.second :: t.more ++ t.digits

def chars (t : Token) : List Char :=
  t.head :: t.body

theorem chars_ne_nil (t : Token) : t.chars ≠ [] :=
  List.cons_ne_nil _ _

theorem isLetter_of_mem {t : Token} {c : Char} (hc : c ∈ t.second :: t.more) :
    isLetter c = true := by
  have h := t.letters_class c hc
  rw [isLetter_iff]
  split at h
  · exact Or.inr h
  · exact Or.inl h

theorem class_of_mem_body {t : Token} {c : Char} (hc : c ∈ t.body) :
    isDigit c = true ∨ if t.capitals = true then isUpper c = true else isLower c = true := by
  rcases List.mem_append.mp hc with hl | hd
  · exact Or.inr (t.letters_class c hl)
  · exact Or.inl (t.digits_class c hd)

theorem isAlnum_of_mem {t : Token} {c : Char} (hc : c ∈ t.chars) : isAlnum c = true := by
  rcases List.mem_cons.mp hc with rfl | hb
  · rw [isAlnum, t.isLetter_head]
    rfl
  · rcases List.mem_append.mp hb with hl | hd
    · rw [isAlnum, isLetter_of_mem hl]
      rfl
    · rw [isAlnum, t.digits_class c hd, Bool.or_true]

theorem isUpper_of_isLetter {t : Token} {c : Char} (hc : c ∈ t.chars) (hl : isLetter c = true)
    (hcap : t.capitals = true) : isUpper c = true := by
  rcases List.mem_cons.mp hc with rfl | hb
  · exact t.isUpper_head hcap
  · rcases class_of_mem_body hb with hd | hu
    · rw [isDigit_eq_false_of_isLetter hl] at hd
      cases hd
    · rwa [if_pos hcap] at hu

theorem isLower_of_isLetter {t : Token} {c : Char} (hc : c ∈ t.body) (hl : isLetter c = true)
    (hcap : t.capitals ≠ true) : isLower c = true := by
  rcases class_of_mem_body hc with hd | hs
  · rw [isDigit_eq_false_of_isLetter hl] at hd
    cases hd
  · rwa [if_neg hcap] at hs

/-- In letters followed by digits, what stands before a letter is a letter. -/
theorem isLetter_before {letters digits a b : List Char} {c d : Char}
    (hl : ∀ x ∈ letters, isLetter x = true) (hd : ∀ x ∈ digits, isDigit x = true)
    (h : letters ++ digits = a ++ c :: d :: b) : isDigit d = true ∨ isLetter c = true := by
  -- Along what stands before the two: they can lie in the letters, in the digits or on the border.
  induction a generalizing letters with
  | nil =>
    cases letters with
    | nil =>
      left
      apply hd
      rw [show digits = c :: d :: b from h]
      simp
    | cons x r =>
      obtain ⟨rfl, _⟩ := List.cons.inj h
      exact Or.inr (hl x List.mem_cons_self)
  | cons y r ih =>
    cases letters with
    | nil =>
      left
      apply hd
      rw [show digits = y :: (r ++ c :: d :: b) from h]
      simp
    | cons x l =>
      obtain ⟨rfl, hr⟩ := List.cons.inj h
      exact ih (fun z hz => hl z (List.mem_cons_of_mem x hz)) hr

/-- What two characters that follow each other in a token are like. -/
theorem neighbours {t : Token} {a b : List Char} {c d : Char} (h : t.chars = a ++ c :: d :: b) :
    isDigit d = true ∨ (isLetter c = true ∧
      if t.capitals = true then isUpper c = true ∧ isUpper d = true else isLower d = true) := by
  have hl : ∀ x ∈ t.head :: t.second :: t.more, isLetter x = true := by
    intro x hx
    rcases List.mem_cons.mp hx with rfl | ht
    · exact t.isLetter_head
    · exact isLetter_of_mem ht
  have hcm : c ∈ t.chars := by
    rw [h]
    simp
  have hdm : d ∈ t.body := by
    cases a with
    | nil =>
      obtain ⟨_, hr⟩ := List.cons.inj h
      rw [hr]
      exact List.mem_cons_self
    | cons x r =>
      obtain ⟨_, hr⟩ := List.cons.inj h
      rw [hr]
      simp
  rcases isLetter_before hl t.digits_class h with hd | hc
  · exact Or.inl hd
  rcases class_of_mem_body hdm with hd | hd
  · exact Or.inl hd
  refine Or.inr ⟨hc, ?_⟩
  by_cases hcap : t.capitals = true
  · rw [if_pos hcap] at hd ⊢
    exact ⟨isUpper_of_isLetter hcm hc hcap, hd⟩
  · rwa [if_neg hcap] at hd ⊢

/-- A letter with a digit behind it is not the first character of a token, and if it is a small `v`,
not the second one either. -/
theorem before_digit {t : Token} {a b : List Char} {c e : Char} (h : t.chars = a ++ c :: e :: b)
    (he : isDigit e = true) : ∃ r p, a = r ++ [p] ∧ (c = 'v' → r ≠ []) := by
  have hne {x : Char} (hx : x ∈ t.second :: t.more) : x ≠ e := by
    rintro rfl
    rw [isDigit_eq_false_of_isLetter (isLetter_of_mem hx)] at he
    cases he
  rcases List.eq_nil_or_concat a with rfl | ⟨r, p, rfl⟩
  · obtain ⟨_, hr⟩ := List.cons.inj h
    obtain ⟨hs, _⟩ := List.cons.inj hr
    exact absurd hs (hne List.mem_cons_self)
  · refine ⟨r, p, List.concat_eq_append, ?_⟩
    rintro rfl rfl
    obtain ⟨_, hr⟩ := List.cons.inj h
    obtain ⟨hs, hr⟩ := List.cons.inj hr
    -- Were the `v` the second character, the token would be one letter and a version.
    cases hm : t.more with
    | nil =>
      rw [hm, t.no_version hs hm] at hr
      cases hr
    | cons x l =>
      rw [hm] at hr
      obtain ⟨hx, _⟩ := List.cons.inj hr
      exact hne (x := x) (by rw [hm]; simp) hx

/-- The letter before a small `v` with a digit behind it is small. -/
theorem isLower_before_version {t : Token} {a b : List Char} {e : Char}
    (h : t.chars = a ++ 'v' :: e :: b) (he : isDigit e = true) :
    ∃ p, a.getLast? = some p ∧ isLower p = true := by
  obtain ⟨r, p, rfl, hr⟩ := before_digit h he
  refine ⟨p, by simp, ?_⟩
  rw [List.append_assoc, List.singleton_append] at h
  rcases neighbours h with hv | ⟨hp, hv⟩
  · exact absurd hv (by decide)
  by_cases hcap : t.capitals = true
  · rw [if_pos hcap] at hv
    exact absurd hv.2 (by decide)
  · obtain ⟨x, l, rfl⟩ := List.exists_cons_of_ne_nil (hr rfl)
    obtain ⟨_, hb⟩ := List.cons.inj h
    have hm : p ∈ t.body := by
      rw [hb]
      simp
    exact isLower_of_isLetter hm hp hcap

/-- The letter before a capital `V` with a digit behind it is a capital. -/
theorem isUpper_before_version {t : Token} {a b : List Char} {e : Char}
    (h : t.chars = a ++ 'V' :: e :: b) (he : isDigit e = true) :
    ∃ p, a.getLast? = some p ∧ isUpper p = true := by
  obtain ⟨r, p, rfl, _⟩ := before_digit h he
  refine ⟨p, by simp, ?_⟩
  rw [List.append_assoc, List.singleton_append] at h
  rcases neighbours h with hv | ⟨_, hv⟩
  · exact absurd hv (by decide)
  by_cases hcap : t.capitals = true
  · rw [if_pos hcap] at hv
    exact hv.1
  · rw [if_neg hcap] at hv
    exact absurd hv (by decide)

end Token

end ClientBuilder.Setter
