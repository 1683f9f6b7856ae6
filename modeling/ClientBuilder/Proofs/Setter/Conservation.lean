import ClientBuilder.Proofs.Setter.Blanks
import ClientBuilder.Proofs.Setter.Spelling

namespace ClientBuilder

def Text.alnums (t : Text) : List Char :=
  t.filterMap fun p => match p with
    | .char c => if Setter.isAlnum c then some c else none
    | .surrogate _ => none

namespace Setter

theorem filter_chars (t : Text) : t.chars.filter isAlnum = t.alnums := by
  induction t with
  | nil => rfl
  | cons p r ih =>
    have hp : Text.chars (p :: r) = p.shown ++ Text.chars r := rfl
    rw [hp, List.filter_append, ih, Text.alnums, Text.alnums, List.filterMap_cons]
    cases p with
    | char c => cases hc : isAlnum c <;> simp [CodePoint.shown, hc]
    | surrogate k =>
      -- What stands for a surrogate is no letter.
      have hs : isAlnum '\uFFFD' = false := by decide
      simp [CodePoint.shown, hs]

theorem alnums_eq_nil_iff (t : Text) : t.alnums = [] ↔ IsGap t := by
  rw [Text.alnums, List.filterMap_eq_nil_iff, IsGap]
  refine forall₂_congr fun p _ => ?_
  cases p with
  | char c => cases hc : isAlnum c <;> simp [isAlnumPoint, hc]
  | surrogate k => simp [isAlnumPoint]

/-- The words of a name are its letters and digits, none lost, added or moved. -/
theorem flatten_words (name : List Char) : (words name).flatten = name.filter isAlnum := by
  have hblank : ∀ c ∈ spaced name, decide (c ≠ ' ') = isAlnum c := by
    intro c hc
    rcases eq_blank_or_isAlnum_of_mem_spaced hc with rfl | ha
    · rfl
    · rw [ha]
      exact decide_eq_true (ne_blank_of_isAlnum ha)
  -- Cutting drops the blanks, and before it letters and digits are only moved apart.
  calc (words name).flatten
      = (spaced name).filter (· ≠ ' ') := flatten_pieces _
    _ = (spaced name).filter isAlnum := List.filter_congr hblank
    _ = (blankRuns false name).filter isAlnum := (spread_spaced name).filter_isAlnum
    _ = name.filter isAlnum := filter_blankRuns false name

theorem isUpper_lower (c : Char) : isUpper (lower c) = false := by
  cases hc : isUpper c with
  | false => rw [lower_of_isUpper_eq_false hc, hc]
  | true => exact isUpper_eq_false_of_isLower (isLower_lower hc)

theorem lower_lower (c : Char) : lower (lower c) = lower c :=
  lower_of_isUpper_eq_false (isUpper_lower c)

theorem lower_upper_eq (c : Char) : lower (upper c) = lower c := by
  cases hc : isLower c with
  | true => rw [lower_upper hc, lower_of_isUpper_eq_false (isUpper_eq_false_of_isLower hc)]
  | false =>
    rw [upper, hc]
    rfl

theorem map_lower_capitalize (w : List Char) : (capitalize w).map lower = w.map lower := by
  cases w with
  | nil => rfl
  | cons c r =>
    have hr : (r.map lower).map lower = r.map lower := by
      rw [List.map_map]
      exact List.map_congr_left fun d _ => lower_lower d
    rw [capitalize, List.map_cons, List.map_cons, lower_upper_eq, hr]

theorem map_lower_lowerFirst (s : List Char) : (lowerFirst s).map lower = s.map lower := by
  cases s with
  | nil => rfl
  | cons c r => rw [lowerFirst, List.map_cons, List.map_cons, lower_lower]

/-- Up to case, a joined name has the letters and digits of the name. -/
theorem map_lower_camel (name : List Char) :
    (camel name).map lower = (name.filter isAlnum).map lower := by
  have hcap : (pascal name).map lower = ((words name).flatten).map lower := by
    rw [pascal, List.map_flatMap, List.map_flatten, List.flatMap_def]
    exact congrArg List.flatten (List.map_congr_left fun w _ => map_lower_capitalize w)
  rw [camel, map_lower_lowerFirst, hcap, flatten_words]

/-- A joined name starts with no capital. -/
theorem isUpper_head_lowerFirst {s r : List Char} {c : Char} (h : lowerFirst s = c :: r) :
    isUpper c = false := by
  cases s with
  | nil => cases h
  | cons d u =>
    obtain ⟨rfl, _⟩ := List.cons.inj h
    exact isUpper_lower d

/-- A setter name is made of the letters and digits of its name in order, up to their case, and does
not start with a capital; it is empty for a name without any, and names with one setter have the
same letters and digits up to case. -/
theorem setterName_alnums (name : Text) :
    (words name.chars).flatten = name.alnums ∧
      (∃ s, setterName name = .ofChars s ∧ s.map lower = name.alnums.map lower) ∧
      (∀ c r, setterName name = .char c :: r → isUpper c = false) ∧
      (setterName name = [] ↔ IsGap name) ∧
      ∀ other, setterName other = setterName name →
        other.alnums.map lower = name.alnums.map lower := by
  have hcamel : ∀ t : Text, (camel t.chars).map lower = t.alnums.map lower := by
    intro t
    rw [map_lower_camel, filter_chars]
  refine ⟨?_, ⟨camel name.chars, rfl, hcamel name⟩, ?_, ?_, ?_⟩
  · rw [flatten_words, filter_chars]
  · intro c r h
    cases hs : camel name.chars with
    | nil =>
      rw [setterName, hs] at h
      cases h
    | cons d u =>
      rw [setterName, hs] at h
      obtain ⟨hd, _⟩ := List.cons.inj h
      obtain rfl := CodePoint.char.inj hd
      exact isUpper_head_lowerFirst hs
  · calc setterName name = [] ↔ camel name.chars = [] := List.map_eq_nil_iff
      _ ↔ (camel name.chars).map lower = [] := List.map_eq_nil_iff.symm
      _ ↔ name.alnums = [] := by rw [hcamel, List.map_eq_nil_iff]
      _ ↔ IsGap name := alnums_eq_nil_iff name
  · intro other h
    -- A setter is the camel form character by character, so one of them gives back the other.
    have hc : camel other.chars = camel name.chars := by
      rw [← Text.chars_ofChars (camel other.chars), ← Text.chars_ofChars (camel name.chars)]
      exact congrArg Text.chars h
    rw [← hcamel other, ← hcamel name, hc]

/-- Two ways to write a parameter have one setter, so they agree up to case; it starts small. -/
theorem alnums_useFips :
    setterName "use-FIPS" = setterName "USE_FIPS" ∧
      Text.alnums "use-FIPS" = "useFIPS".toList ∧
      (Text.alnums "use-FIPS").map lower = (Text.alnums "USE_FIPS").map lower ∧
      setterName "USE_FIPS" = .char 'u' :: Text.ofString "seFips" ∧ isUpper 'u' = false := by
  have hsame : setterName "use-FIPS" = setterName "USE_FIPS" := by decide
  have hname : setterName "USE_FIPS" = .char 'u' :: Text.ofString "seFips" := by decide
  obtain ⟨_, _, hsmall, _, hother⟩ := setterName_alnums "USE_FIPS"
  exact ⟨hsame, by decide, hother _ hsame, hname, hsmall _ _ hname⟩

end Setter

end ClientBuilder
