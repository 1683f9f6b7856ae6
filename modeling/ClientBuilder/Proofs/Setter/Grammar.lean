import ClientBuilder.Proofs.Setter.Blanks
import ClientBuilder.Setter.Name

/-!
The grammar of words. A word is a row of letters and digits without three factors, the places where
the rules break; what a name is split into are words, and a word is split no further.
-/

namespace ClientBuilder.Setter

def startsWith : List (Char → Bool) → List Char → Bool
  | [], _ => true
  | _ :: _, [] => false
  | p :: classes, c :: r => p c && startsWith classes r

/-- Whether characters of some classes stand one after another anywhere in a row. -/
def hasFactor (classes : List (Char → Bool)) : List Char → Bool
  | [] => startsWith classes []
  | c :: r => startsWith classes (c :: r) || hasFactor classes r

def digitEnd : List (Char → Bool) :=
  [isDigit, isLetter]

def acronymEnd : List (Char → Bool) :=
  [isUpper, isUpper, isLower]

def hump : List (Char → Bool) :=
  [isLower, isUpper, isAlnum]

def version (mark : Char) (inner : Char → Bool) : List (Char → Bool) :=
  [inner, inner, fun c => decide (c = mark), isDigit]

/-- A row of letters and digits in which nothing stands that the rules break. -/
structure IsWord (w : List Char) : Prop where
  ne_nil : w ≠ []
  isAlnum_of_mem : ∀ c ∈ w, isAlnum c = true
  no_digitEnd : hasFactor digitEnd w = false
  no_acronymEnd : hasFactor acronymEnd w = false
  no_hump : hasFactor hump w = false

instance (w : List Char) : Decidable (IsWord w) :=
  decidable_of_iff
    (w ≠ [] ∧ w.all isAlnum = true ∧ hasFactor digitEnd w = false ∧
      hasFactor acronymEnd w = false ∧ hasFactor hump w = false)
    ⟨fun ⟨hn, ha, hd, hc, hh⟩ => ⟨hn, List.all_eq_true.mp ha, hd, hc, hh⟩, fun h =>
      ⟨h.ne_nil, List.all_eq_true.mpr h.isAlnum_of_mem, h.no_digitEnd, h.no_acronymEnd, h.no_hump⟩⟩

theorem startsWith_append {classes : List (Char → Bool)} {s : List Char}
    (h : startsWith classes s = true) (t : List Char) : startsWith classes (s ++ t) = true := by
  induction classes generalizing s with
  | nil =>
    rw [startsWith]
  | cons p classes ih =>
    cases s with
    | nil => cases h
    | cons c r =>
      rw [startsWith, Bool.and_eq_true] at h
      rw [List.cons_append, startsWith, h.1, ih h.2]
      rfl

theorem hasFactor_of_startsWith {classes : List (Char → Bool)} {s : List Char}
    (h : startsWith classes s = true) : hasFactor classes s = true := by
  cases s with
  | nil => exact h
  | cons c r => rw [hasFactor, h, Bool.true_or]

theorem hasFactor_iff {classes : List (Char → Bool)} {s : List Char} :
    hasFactor classes s = true ↔ ∃ a t, s = a ++ t ∧ startsWith classes t = true := by
  constructor
  · intro h
    induction s with
    | nil => exact ⟨[], [], rfl, h⟩
    | cons c r ih =>
      rw [hasFactor, Bool.or_eq_true] at h
      rcases h with hs | hr
      · exact ⟨[], c :: r, rfl, hs⟩
      · obtain ⟨a, t, rfl, ht⟩ := ih hr
        exact ⟨c :: a, t, rfl, ht⟩
  · rintro ⟨a, t, rfl, ht⟩
    induction a with
    | nil => exact hasFactor_of_startsWith ht
    | cons c a ih => rw [List.cons_append, hasFactor, ih, Bool.or_true]

/-- What stands in a part stands in the whole. -/
theorem hasFactor_of_isInfix {classes : List (Char → Bool)} {s t : List Char} (hst : s <:+: t)
    (h : hasFactor classes s = true) : hasFactor classes t = true := by
  obtain ⟨a, b, rfl⟩ := hst
  obtain ⟨u, v, rfl, hv⟩ := hasFactor_iff.mp h
  refine hasFactor_iff.mpr ⟨a ++ u, v ++ b, ?_, startsWith_append hv b⟩
  simp only [List.append_assoc]

theorem startsWith_eq_false_of_hasFactor {classes : List (Char → Bool)} {s : List Char}
    (h : hasFactor classes s = false) : startsWith classes s = false := by
  rw [← Bool.not_eq_true] at h ⊢
  exact fun hs => h (hasFactor_of_startsWith hs)

/-- Blanks that are put in make no new factor. -/
theorem Spread.startsWith_eq_false {classes : List (Char → Bool)}
    (hb : ∀ p ∈ classes, p ' ' = false) {s t : List Char} (hst : Spread s t)
    (h : startsWith classes s = false) : startsWith classes t = false := by
  induction hst generalizing classes with
  | nil => exact h
  | keep c _ ih =>
    cases classes with
    | nil => cases h
    | cons p classes =>
      rw [startsWith, Bool.and_eq_false_iff] at h ⊢
      exact h.imp_right (ih fun q hq => hb q (List.mem_cons_of_mem p hq))
  | blank _ ih =>
    cases classes with
    | nil => cases h
    | cons p classes =>
      rw [startsWith, hb p List.mem_cons_self]
      rfl

/-- Blanks bring no characters together that did not stand together before. -/
theorem Spread.hasFactor_eq_false {classes : List (Char → Bool)}
    (hb : ∀ p ∈ classes, p ' ' = false) {s t : List Char} (hst : Spread s t)
    (h : hasFactor classes s = false) : hasFactor classes t = false := by
  induction hst with
  | nil => exact h
  | keep c hst ih =>
    rw [hasFactor, Bool.or_eq_false_iff] at h ⊢
    exact ⟨Spread.startsWith_eq_false hb (.keep c hst) h.1, ih h.2⟩
  | blank hst ih =>
    rw [hasFactor, Bool.or_eq_false_iff]
    have hs := startsWith_eq_false_of_hasFactor h
    exact ⟨Spread.startsWith_eq_false hb (.blank hst) hs, ih h⟩

structure BreaksFactor (test : Char → List Char → Bool) (p q : Char → Bool)
    (more : List (Char → Bool)) : Prop where
  test_eq : ∀ c r, test c r = startsWith (p :: q :: more) (c :: r)
  blank : ∀ k ∈ p :: q :: more, k ' ' = false

theorem isHump_breaksFactor : BreaksFactor isHump isLower isUpper [isAlnum] where
  test_eq c r := by
    rcases r with _ | ⟨d, _ | ⟨e, s⟩⟩ <;> simp [isHump, startsWith, Bool.and_assoc]
  blank := by decide

theorem isAcronymEnd_breaksFactor : BreaksFactor isAcronymEnd isUpper isUpper [isLower] where
  test_eq c r := by
    rcases r with _ | ⟨d, _ | ⟨e, s⟩⟩ <;> simp [isAcronymEnd, startsWith, Bool.and_assoc]
  blank := by decide

theorem isDigitEnd_breaksFactor : BreaksFactor isDigitEnd isDigit isLetter [] where
  test_eq c r := by
    rcases r with _ | ⟨d, s⟩ <;> simp [isDigitEnd, startsWith]
  blank := by decide

section BreaksFactor

variable {test : Char → List Char → Bool} {p q : Char → Bool} {more : List (Char → Bool)}

/-- A rule leaves none of its factors behind, also where they overlap. -/
theorem BreaksFactor.hasFactor_breakAfter (h : BreaksFactor test p q more) (s : List Char) :
    hasFactor (p :: q :: more) (breakAfter test s) = false := by
  induction s with
  | nil => rfl
  | cons c r ih =>
    have hp : p ' ' = false := h.blank p (by simp)
    have hq : q ' ' = false := h.blank q (by simp)
    rw [breakAfter]
    -- What the rule sees behind `c` is the row before the rule has gone on.
    cases ht : test c r with
    | true =>
      -- The blank ends every factor that would start at `c` or at the blank itself.
      rw [if_pos rfl, hasFactor, hasFactor, ih]
      simp [startsWith, hp, hq]
    | false =>
      rw [h.test_eq] at ht
      have hs : startsWith (p :: q :: more) (c :: breakAfter test r) = false :=
        Spread.startsWith_eq_false h.blank (.keep c (spread_breakAfter test r)) ht
      rw [if_neg Bool.false_ne_true, hasFactor, hs, ih]
      rfl

/-- A rule has nothing to do where its factor does not stand. -/
theorem BreaksFactor.breakAfter_eq_self (h : BreaksFactor test p q more) {s : List Char}
    (hs : hasFactor (p :: q :: more) s = false) : breakAfter test s = s := by
  induction s with
  | nil => rfl
  | cons c r ih =>
    rw [hasFactor, Bool.or_eq_false_iff] at hs
    rw [breakAfter, h.test_eq, hs.1, ih hs.2]
    rfl

end BreaksFactor

/-- No version is set apart where none has two characters of the class in front of it. The count
says which beginnings of the factor may have been passed already. -/
theorem setVersionsApart_eq_self {mark : Char} {inner : Char → Bool} {before : Nat} {s : List Char}
    (h : hasFactor (version mark inner) s = false)
    (hone : 1 ≤ before →
      startsWith [inner, fun c => decide (c = mark), isDigit] s = false)
    (htwo : 2 ≤ before → startsWith [fun c => decide (c = mark), isDigit] s = false) :
    setVersionsApart mark inner before false s = s := by
  induction s generalizing before with
  | nil => rfl
  | cons c r ih =>
    rw [hasFactor, Bool.or_eq_false_iff, version, startsWith] at h
    have hc : ¬ (c = mark ∧ 2 ≤ before ∧ startsWithDigit r = true) := by
      rintro ⟨hm, hle, hd⟩
      have hn := htwo hle
      cases r with
      | nil => cases hd
      | cons d u =>
        rw [startsWithDigit] at hd
        simp [startsWith, hm, hd] at hn
    have hrest : setVersionsApart mark inner (if inner c = true then before + 1 else 0) false r =
        r := by
      cases hi : inner c with
      | false => exact ih h.2 (fun hle => by simp at hle) (fun hle => by simp at hle)
      | true =>
        refine ih h.2 (fun _ => ?_) (fun hle => ?_)
        · simpa only [hi, Bool.true_and] using h.1
        · rw [if_pos rfl] at hle
          have hn := hone (by omega)
          rw [startsWith, hi, Bool.true_and] at hn
          exact hn
    rw [setVersionsApart]
    simp only [Bool.false_eq_true, if_false, if_neg hc, hrest]

theorem exists_of_startsWith_version {mark : Char} {inner : Char → Bool} {s : List Char}
    (h : startsWith (version mark inner) s = true) :
    ∃ p q d r, s = p :: q :: mark :: d :: r ∧ inner p = true ∧ inner q = true ∧
      isDigit d = true := by
  rcases s with _ | ⟨p, _ | ⟨q, _ | ⟨m, _ | ⟨d, r⟩⟩⟩⟩
  case cons.cons.cons.cons =>
    simp only [version, startsWith, Bool.and_true, Bool.and_eq_true, decide_eq_true_eq] at h
    obtain ⟨hp, hq, rfl, hd⟩ := h
    exact ⟨p, q, d, r, rfl, hp, hq, hd⟩
  all_goals simp [version, startsWith] at h

/-- In letters and digits, a small `v` with two capitals or digits in front of it is the end of a
row of capitals or follows a digit. -/
theorem hasFactor_of_lowerVersion {s : List Char} (ha : ∀ c ∈ s, isAlnum c = true)
    (h : hasFactor (version 'v' fun c => !isLower c) s = true) :
    hasFactor digitEnd s = true ∨ hasFactor acronymEnd s = true := by
  obtain ⟨a, t, rfl, ht⟩ := hasFactor_iff.mp h
  obtain ⟨p, q, d, r, rfl, hp, hq, _⟩ := exists_of_startsWith_version ht
  have hclass : ∀ c ∈ a ++ p :: q :: 'v' :: d :: r, (!isLower c) = true →
      isUpper c = true ∨ isDigit c = true := by
    intro c hc hl
    rw [Bool.not_eq_true'] at hl
    have hca := ha c hc
    rwa [isAlnum, isLetter, hl, Bool.false_or, Bool.or_eq_true] at hca
  have hv : isLower 'v' = true := by decide
  rcases hclass q (by simp) hq with hqu | hqd
  · rcases hclass p (by simp) hp with hpu | hpd
    · right
      refine hasFactor_iff.mpr ⟨a, _, rfl, ?_⟩
      simp [acronymEnd, startsWith, hpu, hqu, hv]
    · left
      refine hasFactor_iff.mpr ⟨a, _, rfl, ?_⟩
      simp [digitEnd, startsWith, hpd, isLetter, hqu]
  · left
    refine hasFactor_iff.mpr ⟨a ++ [p], q :: 'v' :: d :: r, by simp, ?_⟩
    simp [digitEnd, startsWith, hqd, isLetter, hv]

/-- In letters and digits, a capital `V` with two small letters or digits in front of it and a digit
behind it starts a word or follows a digit. -/
theorem hasFactor_of_upperVersion {s : List Char} (ha : ∀ c ∈ s, isAlnum c = true)
    (h : hasFactor (version 'V' fun c => !isUpper c) s = true) :
    hasFactor digitEnd s = true ∨ hasFactor hump s = true := by
  obtain ⟨a, t, rfl, ht⟩ := hasFactor_iff.mp h
  obtain ⟨p, q, d, r, rfl, _, hq, hd⟩ := exists_of_startsWith_version ht
  have hV : isUpper 'V' = true := by decide
  have hclass : isLower q = true ∨ isDigit q = true := by
    have hqa := ha q (by simp)
    rw [Bool.not_eq_true'] at hq
    rwa [isAlnum, isLetter, hq, Bool.or_false, Bool.or_eq_true] at hqa
  -- The factor of the other rule starts behind `p`.
  have hplace : a ++ p :: q :: 'V' :: d :: r = (a ++ [p]) ++ q :: 'V' :: d :: r := by simp
  rcases hclass with hql | hqd
  · right
    refine hasFactor_iff.mpr ⟨_, _, hplace, ?_⟩
    simp [hump, startsWith, hql, hV, isAlnum, hd]
  · left
    refine hasFactor_iff.mpr ⟨_, _, hplace, ?_⟩
    simp [digitEnd, startsWith, hqd, isLetter, hV]

/-- The rules find nothing to do in a word. -/
theorem spaced_of_isWord {w : List Char} (h : IsWord w) : spaced w = w := by
  have hruns : blankRuns false w = w := by
    have hr := blankRuns_append_of_alnum h.isAlnum_of_mem h.ne_nil false []
    rwa [List.append_nil, blankRuns, List.append_nil] at hr
  -- A version that could be set apart would hold a factor that a word has not.
  have hlower : hasFactor (version 'v' fun c => !isLower c) w = false := by
    rw [← Bool.not_eq_true]
    intro hf
    rcases hasFactor_of_lowerVersion h.isAlnum_of_mem hf with hd | ha
    · exact absurd hd (by simp [h.no_digitEnd])
    · exact absurd ha (by simp [h.no_acronymEnd])
  have hupper : hasFactor (version 'V' fun c => !isUpper c) w = false := by
    rw [← Bool.not_eq_true]
    intro hf
    rcases hasFactor_of_upperVersion h.isAlnum_of_mem hf with hd | hh
    · exact absurd hd (by simp [h.no_digitEnd])
    · exact absurd hh (by simp [h.no_hump])
  rw [spaced, hruns, setVersionsApart_eq_self hlower (by simp) (by simp),
    setVersionsApart_eq_self hupper (by simp) (by simp),
    isHump_breaksFactor.breakAfter_eq_self h.no_hump,
    isAcronymEnd_breaksFactor.breakAfter_eq_self h.no_acronymEnd,
    isDigitEnd_breaksFactor.breakAfter_eq_self h.no_digitEnd]

/-- A word that no rule breaks is its own only word. -/
theorem words_of_isWord {w : List Char} (h : IsWord w) : words w = [w] := by
  rw [words, spaced_of_isWord h]
  exact pieces_of_no_blank (fun c hc => ne_blank_of_isAlnum (h.isAlnum_of_mem c hc)) h.ne_nil

/-- What a rule has broken stays broken by the rules after it. -/
theorem hasFactor_spaced (name : List Char) :
    hasFactor digitEnd (spaced name) = false ∧ hasFactor acronymEnd (spaced name) = false ∧
      hasFactor hump (spaced name) = false := by
  let s := setVersionsApart 'V' (fun c => !isUpper c) 0 false
    (setVersionsApart 'v' (fun c => !isLower c) 0 false (blankRuns false name))
  -- Each rule clears its own factor, and the rules behind it only put blanks in.
  have hhump := isHump_breaksFactor.hasFactor_breakAfter s
  have hacronym := isAcronymEnd_breaksFactor.hasFactor_breakAfter (breakAfter isHump s)
  have hdigit := spread_breakAfter isDigitEnd (breakAfter isAcronymEnd (breakAfter isHump s))
  refine ⟨isDigitEnd_breaksFactor.hasFactor_breakAfter _, ?_, ?_⟩
  · exact hdigit.hasFactor_eq_false isAcronymEnd_breaksFactor.blank hacronym
  · have hlater := (spread_breakAfter isAcronymEnd _).trans hdigit
    exact hlater.hasFactor_eq_false isHump_breaksFactor.blank hhump

theorem isWord_of_mem_words {name w : List Char} (hw : w ∈ words name) : IsWord w := by
  obtain ⟨hne, hblank, hrun⟩ := mem_pieces hw
  obtain ⟨hdigit, hacronym, hhump⟩ := hasFactor_spaced name
  have hpart {classes : List (Char → Bool)} (h : hasFactor classes (spaced name) = false) :
      hasFactor classes w = false := by
    rw [← Bool.not_eq_true] at h ⊢
    exact fun hf => h (hasFactor_of_isInfix hrun hf)
  have halnum : ∀ c ∈ w, isAlnum c = true := by
    intro c hc
    exact (eq_blank_or_isAlnum_of_mem_spaced (hrun.subset hc)).resolve_left (hblank c hc)
  exact ⟨hne, halnum, hpart hdigit, hpart hacronym, hpart hhump⟩

/-- A name is split into words of the grammar, each of which stays whole when it is split again, and
exactly the words of the grammar are split into themselves. -/
theorem words_grammar :
    (∀ (name : Text) (w : List Char), w ∈ words name.chars → IsWord w ∧ words w = [w]) ∧
      ∀ w, IsWord w ↔ words w = [w] := by
  constructor
  · intro name w hw
    have hword := isWord_of_mem_words hw
    exact ⟨hword, words_of_isWord hword⟩
  · intro w
    constructor
    · exact words_of_isWord
    · intro h
      have hmem : w ∈ words w := by
        rw [h]
        exact List.mem_singleton_self w
      exact isWord_of_mem_words hmem

/-- A word of a setting's name, which stays whole, and a name that is one word itself. -/
theorem words_disableS3Express :
    "S3".toList ∈ words (Text.ofString "DisableS3Express").chars ∧
      IsWord "S3".toList ∧ words "S3".toList = ["S3".toList] ∧
      words "EndpointA".toList = ["EndpointA".toList] := by
  have hmem : "S3".toList ∈ words (Text.ofString "DisableS3Express").chars := by decide
  have hword : IsWord "EndpointA".toList := by decide
  obtain ⟨hs, hself⟩ := words_grammar.1 _ _ hmem
  exact ⟨hmem, hs, hself, (words_grammar.2 _).mp hword⟩

end ClientBuilder.Setter
