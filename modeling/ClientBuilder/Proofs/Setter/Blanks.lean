import ClientBuilder.Proofs.Setter.Passes
import Mathlib.Data.List.TakeWhile

namespace ClientBuilder.Setter

/-- The second row is the first one with blanks put into it. -/
inductive Spread : List Char → List Char → Prop where
  | nil : Spread [] []
  | keep (c : Char) {s t : List Char} (h : Spread s t) : Spread (c :: s) (c :: t)
  | blank {s t : List Char} (h : Spread s t) : Spread s (' ' :: t)

theorem Spread.trans {s t u : List Char} (hst : Spread s t) (htu : Spread t u) : Spread s u := by
  induction htu generalizing s with
  | nil => exact hst
  | keep c _ ih =>
    cases hst with
    | keep _ h => exact .keep c (ih h)
    | blank h => exact .blank (ih h)
  | blank _ ih => exact .blank (ih hst)

/-- A rule that breaks after characters only puts blanks in. -/
theorem spread_breakAfter (test : Char → List Char → Bool) (s : List Char) :
    Spread s (breakAfter test s) := by
  induction s with
  | nil => exact .nil
  | cons c r ih =>
    rw [breakAfter]
    split
    · exact .keep c (.blank ih)
    · exact .keep c ih

/-- Setting versions apart only puts blanks in. -/
theorem spread_setVersionsApart (mark : Char) (inner : Char → Bool) (before : Nat)
    (inVersion : Bool) (s : List Char) :
    Spread s (setVersionsApart mark inner before inVersion s) := by
  induction s generalizing before inVersion with
  | nil =>
    rw [setVersionsApart]
    split
    · exact .blank .nil
    · exact .nil
  | cons c r ih =>
    rw [setVersionsApart]
    -- In a version, at the start of one, or elsewhere: a blank at most stands before `c`.
    split
    · split
      · exact .keep c (ih _ _)
      · exact .blank (.keep c (ih _ _))
    · split
      · exact .blank (.keep c (ih _ _))
      · exact .keep c (ih _ _)

/-- What splits a name comes down to blanks put into its letters, its digits and the blanks that
stand for everything else. -/
theorem spread_spaced (name : List Char) : Spread (blankRuns false name) (spaced name) := by
  have hv := spread_setVersionsApart 'v' (fun c => !isLower c) 0 false (blankRuns false name)
  have hV := hv.trans (spread_setVersionsApart 'V' (fun c => !isUpper c) 0 false _)
  have hh := hV.trans (spread_breakAfter isHump _)
  have ha := hh.trans (spread_breakAfter isAcronymEnd _)
  exact ha.trans (spread_breakAfter isDigitEnd _)

/-- Blanks that are put in change no letter or digit. -/
theorem Spread.filter_isAlnum {s t : List Char} (h : Spread s t) :
    t.filter isAlnum = s.filter isAlnum := by
  induction h with
  | nil => rfl
  | keep c _ ih => rw [List.filter_cons, List.filter_cons, ih]
  | blank _ ih =>
    have hb : isAlnum ' ' = false := by decide
    rw [List.filter_cons, hb, ← ih]
    rfl

theorem Spread.eq_blank_or_mem {s t : List Char} (h : Spread s t) {c : Char} (hc : c ∈ t) :
    c = ' ' ∨ c ∈ s := by
  induction h with
  | nil => cases hc
  | keep d _ ih =>
    rcases List.mem_cons.mp hc with rfl | hc
    · exact Or.inr List.mem_cons_self
    · exact (ih hc).imp_right (List.mem_cons_of_mem d)
  | blank _ ih =>
    rcases List.mem_cons.mp hc with rfl | hc
    · exact Or.inl rfl
    · exact ih hc

theorem filter_blankRuns (before : Bool) (s : List Char) :
    (blankRuns before s).filter isAlnum = s.filter isAlnum := by
  induction s generalizing before with
  | nil => rfl
  | cons c r ih =>
    have hb : isAlnum ' ' = false := by decide
    rw [blankRuns]
    cases hc : isAlnum c with
    | true => simp only [if_true, List.filter_cons, hc, ih]
    | false => cases before <;> simp [hc, hb, ih]

theorem eq_blank_or_isAlnum_of_mem_blankRuns {before : Bool} {s : List Char} {c : Char}
    (hc : c ∈ blankRuns before s) : c = ' ' ∨ isAlnum c = true := by
  induction s generalizing before with
  | nil => cases hc
  | cons d r ih =>
    rw [blankRuns] at hc
    split at hc
    · rename_i hd
      rcases List.mem_cons.mp hc with rfl | hc
      · exact Or.inr hd
      · exact ih hc
    · split at hc
      · exact ih hc
      · rcases List.mem_cons.mp hc with rfl | hc
        · exact Or.inl rfl
        · exact ih hc

theorem eq_blank_or_isAlnum_of_mem_spaced {name : List Char} {c : Char} (hc : c ∈ spaced name) :
    c = ' ' ∨ isAlnum c = true := by
  rcases (spread_spaced name).eq_blank_or_mem hc with hb | hm
  · exact Or.inl hb
  · exact eq_blank_or_isAlnum_of_mem_blankRuns hm

theorem ne_blank_of_mem_run {c d : Char} {s : List Char} (hc : c ≠ ' ')
    (hd : d ∈ c :: s.takeWhile (· ≠ ' ')) : d ≠ ' ' := by
  rcases List.mem_cons.mp hd with rfl | hd
  · exact hc
  · simpa using List.mem_takeWhile_imp hd

/-- The first piece of a row that starts with no blank reaches up to the first blank. -/
theorem pieces_cons {c : Char} (hc : c ≠ ' ') (s : List Char) :
    pieces (c :: s) = (c :: s.takeWhile (· ≠ ' ')) :: pieces (s.dropWhile (· ≠ ' ')) := by
  have hrun : ∀ d ∈ c :: s.takeWhile (· ≠ ' '), d ≠ ' ' := fun _ => ne_blank_of_mem_run hc
  have hsplit : c :: s = (c :: s.takeWhile (· ≠ ' ')) ++ s.dropWhile (· ≠ ' ') := by
    rw [List.cons_append, List.takeWhile_append_dropWhile]
  rw [hsplit]
  cases hd : s.dropWhile (· ≠ ' ') with
  | nil =>
    rw [List.append_nil, pieces_of_no_blank hrun (List.cons_ne_nil _ _)]
    rfl
  | cons d r =>
    -- The run stops at a blank.
    have hblank : d = ' ' := by
      have hne : s.dropWhile (· ≠ ' ') ≠ [] := by
        rw [hd]
        exact List.cons_ne_nil d r
      have hn := List.head_dropWhile_not (fun x => decide (x ≠ ' ')) hne
      simp only [hd, List.head_cons] at hn
      simpa using hn
    rw [hblank, pieces_append_blank hrun (List.cons_ne_nil _ _), pieces_blank]

/-- A row is a blank in front of a row, or a run without blanks in front of one. -/
@[elab_as_elim]
theorem run_induction {motive : List Char → Prop} (nil : motive [])
    (blank : ∀ s, motive s → motive (' ' :: s))
    (run : ∀ c s, c ≠ ' ' → motive (s.dropWhile (· ≠ ' ')) → motive (c :: s)) (s : List Char) :
    motive s := by
  induction hn : s.length using Nat.strong_induction_on generalizing s with
  | _ n ih =>
    subst hn
    cases s with
    | nil => exact nil
    | cons c r =>
      by_cases hc : c = ' '
      · rw [hc]
        exact blank r (ih r.length (Nat.lt_succ_self _) r rfl)
      · have hle : (r.dropWhile (· ≠ ' ')).length ≤ r.length :=
          (List.dropWhile_suffix _).length_le
        exact run c r hc (ih _ (Nat.lt_succ_of_le hle) _ rfl)

/-- The pieces of a row hold all of it but the blanks. -/
theorem flatten_pieces (s : List Char) : (pieces s).flatten = s.filter (· ≠ ' ') := by
  induction s using run_induction with
  | nil => rfl
  | blank s ih =>
    rw [pieces_blank, ih]
    simp
  | run c s hc ih =>
    have hrun : (s.takeWhile (· ≠ ' ')).filter (· ≠ ' ') = s.takeWhile (· ≠ ' ') := by
      rw [List.filter_eq_self]
      intro d hd
      exact decide_eq_true (ne_blank_of_mem_run hc (List.mem_cons_of_mem c hd))
    calc (pieces (c :: s)).flatten
        = c :: (s.takeWhile (· ≠ ' ') ++ (s.dropWhile (· ≠ ' ')).filter (· ≠ ' ')) := by
          rw [pieces_cons hc, List.flatten_cons, ih, List.cons_append]
      _ = c :: (s.takeWhile (· ≠ ' ') ++ s.dropWhile (· ≠ ' ')).filter (· ≠ ' ') := by
          rw [List.filter_append, hrun]
      _ = (c :: s).filter (· ≠ ' ') := by
          rw [List.takeWhile_append_dropWhile, List.filter_cons]
          simp [hc]

/-- A piece is a run of the row without blanks. -/
theorem mem_pieces {s w : List Char} (hw : w ∈ pieces s) :
    w ≠ [] ∧ (∀ c ∈ w, c ≠ ' ') ∧ w <:+: s := by
  induction s using run_induction with
  | nil => cases hw
  | blank s ih =>
    rw [pieces_blank] at hw
    obtain ⟨hne, hb, hi⟩ := ih hw
    exact ⟨hne, hb, hi.trans (List.suffix_cons ' ' s).isInfix⟩
  | run c s hc ih =>
    rw [pieces_cons hc] at hw
    rcases List.mem_cons.mp hw with rfl | hw
    · have hfront := List.takeWhile_prefix (fun d => decide (d ≠ ' ')) (l := s)
      have hrun := ((List.prefix_cons_inj c).mpr hfront).isInfix
      exact ⟨List.cons_ne_nil _ _, fun _ => ne_blank_of_mem_run hc, hrun⟩
    · obtain ⟨hne, hb, hi⟩ := ih hw
      have hs : s.dropWhile (· ≠ ' ') <:+ s := List.dropWhile_suffix _
      exact ⟨hne, hb, hi.trans (hs.trans (List.suffix_cons c s)).isInfix⟩

end ClientBuilder.Setter
