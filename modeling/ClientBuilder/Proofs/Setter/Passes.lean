import ClientBuilder.Proofs.Setter.Letters

namespace ClientBuilder.Setter

/-- Letters and digits pass through the rule for runs as they are. -/
theorem blankRuns_append_of_alnum {s : List Char} (hs : ∀ c ∈ s, isAlnum c = true) (hne : s ≠ [])
    (before : Bool) (rest : List Char) :
    blankRuns before (s ++ rest) = s ++ blankRuns false rest := by
  induction s generalizing before with
  | nil => exact absurd rfl hne
  | cons c r ih =>
    rw [List.cons_append, blankRuns, if_pos (hs c List.mem_cons_self)]
    cases r with
    | nil => rfl
    | cons d u =>
      rw [ih (fun e he => hs e (List.mem_cons_of_mem c he)) (List.cons_ne_nil d u)]
      rfl

/-- A run of other characters is one blank, or none if it goes on from the run before. -/
theorem blankRuns_append_of_gap {s : List Char} (hs : ∀ c ∈ s, isAlnum c = false)
    (before : Bool) (rest : List Char) :
    blankRuns before (s ++ rest) =
      (if s = [] ∨ before = true then [] else [' ']) ++
        blankRuns (before || !s.isEmpty) rest := by
  induction s generalizing before with
  | nil => simp
  | cons c r ih =>
    have hc := hs c List.mem_cons_self
    have hr := ih (fun e he => hs e (List.mem_cons_of_mem c he)) true
    rw [List.cons_append, blankRuns, hc, hr]
    cases before <;> simp

/-- A rule that puts blanks leaves a row as it is if it breaks nowhere in it. -/
theorem breakAfter_append {test : Char → List Char → Bool} {s rest : List Char}
    (h : ∀ a c b, s = a ++ c :: b → test c (b ++ rest) = false) :
    breakAfter test (s ++ rest) = s ++ breakAfter test rest := by
  induction s with
  | nil => rfl
  | cons c r ih =>
    have hc := h [] c r rfl
    have hr := ih fun a d b hs => h (c :: a) d b (by rw [hs]; rfl)
    rw [List.cons_append, breakAfter, hc, hr]
    rfl

/-- No version is set apart in a row where each mark before a digit has a character of another class
directly before it. `prior` is what stands before the row. -/
theorem setVersionsApart_append {mark : Char} {inner : Char → Bool} (prior : List Char)
    {s rest : List Char}
    (h : ∀ a c b, s = a ++ c :: b → c = mark → startsWithDigit (b ++ rest) = true →
      ∃ p, (prior ++ a).getLast? = some p ∧ inner p = false)
    {before : Nat} (hb : ∀ p, prior.getLast? = some p → inner p = false → before = 0) :
    ∃ k, setVersionsApart mark inner before false (s ++ rest) =
      s ++ setVersionsApart mark inner k false rest := by
  induction s generalizing prior before with
  | nil => exact ⟨before, rfl⟩
  | cons c r ih =>
    have hc : ¬ (c = mark ∧ 2 ≤ before ∧ startsWithDigit (r ++ rest) = true) := by
      rintro ⟨hm, hle, hd⟩
      obtain ⟨p, hp, hi⟩ := h [] c r rfl hm hd
      rw [List.append_nil] at hp
      have h0 := hb p hp hi
      omega
    have hr : ∀ a d b, r = a ++ d :: b → d = mark → startsWithDigit (b ++ rest) = true →
        ∃ p, (prior ++ [c] ++ a).getLast? = some p ∧ inner p = false := by
      intro a d b hs hm hd
      have hp := h (c :: a) d b (by rw [hs]; rfl) hm hd
      simpa only [List.append_assoc, List.singleton_append] using hp
    -- What is counted behind `c` is nothing unless `c` is of the class itself.
    have hn : ∀ p, (prior ++ [c]).getLast? = some p → inner p = false →
        (if inner c = true then before + 1 else 0) = 0 := by
      intro p hp hi
      obtain rfl : c = p := by simpa using hp
      rw [hi]
      rfl
    obtain ⟨k, hk⟩ := ih (prior ++ [c]) hr hn
    refine ⟨k, ?_⟩
    rw [List.cons_append, setVersionsApart]
    simp only [Bool.false_eq_true, if_false, if_neg hc, hk, List.cons_append]

theorem pieces_blank (s : List Char) : pieces (' ' :: s) = pieces s := by
  rw [pieces.eq_def]
  rfl

theorem pieces_cons_nil {c : Char} (hc : c ≠ ' ') : pieces [c] = [[c]] := by
  rw [pieces.eq_def]
  simp only [if_neg hc]

theorem pieces_cons_blank {c : Char} (hc : c ≠ ' ') (s : List Char) :
    pieces (c :: ' ' :: s) = [c] :: pieces s := by
  rw [pieces.eq_def]
  simp only [if_neg hc, if_true, pieces_blank]

theorem pieces_cons_cons {c d : Char} (hc : c ≠ ' ') (hd : d ≠ ' ') {s w : List Char}
    {ws : List (List Char)} (h : pieces (d :: s) = w :: ws) :
    pieces (c :: d :: s) = (c :: w) :: ws := by
  rw [pieces.eq_def]
  simp only [if_neg hc, if_neg hd, h]

/-- A row without blanks is one piece, up to the blank behind it. -/
theorem pieces_append_blank {s : List Char} (hs : ∀ c ∈ s, c ≠ ' ') (hne : s ≠ [])
    (rest : List Char) : pieces (s ++ ' ' :: rest) = s :: pieces rest := by
  induction s with
  | nil => exact absurd rfl hne
  | cons c r ih =>
    have hc := hs c List.mem_cons_self
    cases r with
    | nil => exact pieces_cons_blank hc rest
    | cons d u =>
      have hd := hs d (List.mem_cons_of_mem c List.mem_cons_self)
      exact pieces_cons_cons hc hd
        (ih (fun e he => hs e (List.mem_cons_of_mem c he)) (List.cons_ne_nil d u))

/-- Without blanks there is one piece. -/
theorem pieces_of_no_blank {s : List Char} (hs : ∀ c ∈ s, c ≠ ' ') (hne : s ≠ []) :
    pieces s = [s] := by
  induction s with
  | nil => exact absurd rfl hne
  | cons c r ih =>
    have hc := hs c List.mem_cons_self
    cases r with
    | nil => exact pieces_cons_nil hc
    | cons d u =>
      have hd := hs d (List.mem_cons_of_mem c List.mem_cons_self)
      exact pieces_cons_cons hc hd
        (ih (fun e he => hs e (List.mem_cons_of_mem c he)) (List.cons_ne_nil d u))

end ClientBuilder.Setter
