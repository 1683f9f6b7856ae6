import ClientBuilder.Proofs.Setter.Word

/-!
Spellings of a row of words: separated by other signs, or one after another with capitals in
between. All of them split into the same words and have the same setter, itself one of them.
-/

namespace ClientBuilder

namespace Text

theorem chars_append (s t : Text) : (s ++ t).chars = s.chars ++ t.chars :=
  List.flatMap_append

theorem chars_eq_nil_iff (s : Text) : s.chars = [] ↔ s = [] := by
  rw [chars, List.flatMap_eq_nil_iff]
  constructor
  · intro h
    cases s with
    | nil => rfl
    | cons c r =>
      have hc := h c List.mem_cons_self
      cases c <;> cases hc
  · rintro rfl c hc
    cases hc

end Text

namespace Setter

def isAlnumPoint : CodePoint → Bool
  | .char c => isAlnum c
  | .surrogate _ => false

def IsGap (s : Text) : Prop :=
  ∀ c ∈ s, isAlnumPoint c = false

instance (s : Text) : Decidable (IsGap s) :=
  inferInstanceAs (Decidable (∀ c ∈ s, isAlnumPoint c = false))

theorem isGap_nil : IsGap [] := by
  intro c hc
  cases hc

abbrev StyledWord :=
  Style × Word

def StyledWord.text (p : StyledWord) : Text :=
  .ofChars (p.2.spell p.1)

/-- Words with something else between any two of them, and maybe behind the last one. -/
inductive Separated : List StyledWord → Text → Prop where
  | last (p : StyledWord) {after : Text} (ha : IsGap after) : Separated [p] (p.text ++ after)
  | cons (p : StyledWord) {gap rest : Text} {r : List StyledWord} (hg : IsGap gap) (hne : gap ≠ [])
      (hr : Separated r rest) : Separated (p :: r) (p.text ++ gap ++ rest)

/-- A word can be written right behind another one: with a capital in front, and in capitals only
where the word before is not all capitals itself. -/
def CanFollow (p q : StyledWord) : Prop :=
  q.1 ≠ .small ∧ (p.1 = .capitals → p.2.digits = [] → q.1 ≠ .capitals)

/-- A text that spells some words. -/
inductive Spelling (ws : List Word) : Text → Prop where
  | separated {r : List StyledWord} {before rest : Text} (hw : r.map (·.2) = ws) (hb : IsGap before)
      (hr : Separated r rest) : Spelling ws (before ++ rest)
  | joined {r : List StyledWord} (hw : r.map (·.2) = ws) (hr : r.IsChain CanFollow) :
      Spelling ws (r.flatMap StyledWord.text)

def StyledWord.token (p : StyledWord) : Token :=
  p.2.token p.1

theorem chars_text (p : StyledWord) : p.text.chars = p.token.chars := by
  rw [StyledWord.text, Text.chars_ofChars, StyledWord.token, Word.chars_token]

theorem isAlnum_of_mem_chars {s : Text} (hs : IsGap s) {c : Char} (hc : c ∈ s.chars) :
    isAlnum c = false := by
  obtain ⟨p, hp, hc⟩ := List.mem_flatMap.mp hc
  have hn := hs p hp
  cases p with
  | char d =>
    obtain rfl := List.mem_singleton.mp hc
    exact hn
  | surrogate k =>
    rw [List.eq_of_mem_replicate hc]
    decide

theorem blankRuns_token (before : Bool) (t : Token) (rest : List Char) :
    blankRuns before (t.chars ++ rest) = t.chars ++ blankRuns false rest :=
  blankRuns_append_of_alnum (fun _ hc => Token.isAlnum_of_mem hc) t.chars_ne_nil before rest

/-- Separated words come to a row with all its blanks. -/
theorem blankRuns_separated {r : List StyledWord} {s : Text} (h : Separated r s) :
    ∃ trail t u, IsTrail trail ∧ r.map StyledWord.token = t :: u ∧
      ∀ before, blankRuns before s.chars = row (fun _ => true) trail t u := by
  -- What is open before a word does not matter, since a word starts with a letter.
  induction h with
  | @last p after ha =>
    have hg := blankRuns_append_of_gap (fun _ hc => isAlnum_of_mem_chars ha hc) false []
    rw [List.append_nil] at hg
    refine ⟨blankRuns false after.chars, p.token, [], ?_, rfl, fun before => ?_⟩
    · rw [hg]
      by_cases hn : after.chars = []
      · simp [hn, IsTrail, blankRuns]
      · simp [hn, IsTrail, blankRuns]
    · rw [Text.chars_append, chars_text, blankRuns_token]
      rfl
  | @cons p gap rest r hg hne hr ih =>
    obtain ⟨trail, t, u, ht, hm, hb⟩ := ih
    refine ⟨trail, p.token, t :: u, ht, by rw [List.map_cons, hm], fun before => ?_⟩
    have hgap := blankRuns_append_of_gap (fun _ hc => isAlnum_of_mem_chars hg hc) false rest.chars
    rw [if_neg (by simpa [Text.chars_eq_nil_iff] using hne), hb] at hgap
    rw [Text.chars_append, Text.chars_append, chars_text, List.append_assoc, blankRuns_token, hgap]
    rfl

/-- Joined words come to a row without blanks. -/
theorem blankRuns_joined (p : StyledWord) (r : List StyledWord) (before : Bool) :
    blankRuns before (Text.chars ((p :: r).flatMap StyledWord.text)) =
      row (fun _ => false) [] p.token (r.map StyledWord.token) := by
  induction r generalizing p before with
  | nil =>
    rw [List.flatMap_cons, List.flatMap_nil, Text.chars_append, chars_text, blankRuns_token]
    rfl
  | cons q r ih =>
    rw [List.flatMap_cons, Text.chars_append, chars_text, blankRuns_token, ih]
    rfl

/-- What can be written behind a word can stand behind its token. -/
theorem abuts_of_canFollow {p q : StyledWord} (h : CanFollow p q) : p.token.Abuts q.token := by
  obtain ⟨s, w⟩ := p
  obtain ⟨s', w'⟩ := q
  obtain ⟨hs, hc⟩ := h
  constructor
  · cases s' with
    | small => exact absurd rfl hs
    | _ => exact isUpper_upper w'.isLower_first
  · intro hl
    obtain ⟨hcap, hd⟩ := Token.capitals_of_isUpper_last hl
    -- The word before ends in a capital only if it is in capitals and without digits.
    cases s with
    | capitals =>
      have hn := hc rfl hd
      cases s' with
      | capitals => exact absurd rfl hn
      | _ => rfl
    | _ => cases hcap

/-- The words of a spelling are the words that it spells, each in some style. -/
theorem words_of_spelling {w : Word} {ws : List Word} {name : Text} (h : Spelling (w :: ws) name) :
    ∃ r : List StyledWord, r.map (·.2) = w :: ws ∧
      words name.chars = r.map fun p => p.2.spell p.1 := by
  have hchars : ∀ r : List StyledWord,
      (r.map StyledWord.token).map Token.chars = r.map fun p => p.2.spell p.1 := by
    intro r
    rw [List.map_map]
    exact List.map_congr_left fun p _ => p.2.chars_token p.1
  cases h with
  | @separated r before rest hw hb hr =>
    refine ⟨r, hw, ?_⟩
    obtain ⟨trail, t, u, ht, hm, hrow⟩ := blankRuns_separated hr
    have hlead := blankRuns_append_of_gap (fun _ hc => isAlnum_of_mem_chars hb hc) false rest.chars
    rw [hrow, ← Text.chars_append] at hlead
    have hl : IsTrail (if before.chars = [] ∨ false = true then [] else [' ']) := by
      split
      · exact Or.inl rfl
      · exact Or.inr rfl
    -- A blank stands behind every word, so nothing is asked of words that abut.
    have habut : Abutting (fun _ => true) (t :: u) :=
      (List.pairwise_of_forall fun _ _ hg => by cases hg).isChain
    rw [words_of_row hl ht habut hlead, ← hm, hchars]
  | @joined r hw hr =>
    refine ⟨r, hw, ?_⟩
    cases r with
    | nil => cases hw
    | cons p r =>
      have habut : Abutting (fun _ => false) (p.token :: r.map StyledWord.token) := by
        rw [← List.map_cons (f := StyledWord.token)]
        exact (List.isChain_map _).mpr (hr.imp fun _ _ hc _ => abuts_of_canFollow hc)
      have hrow := blankRuns_joined p r false
      rw [words_of_row (Or.inl rfl) (Or.inl rfl) habut hrow, ← List.map_cons, hchars]

def camelText (w : Word) (ws : List Word) : Text :=
  .ofChars (w.text ++ ws.flatMap fun v => capitalize v.text)

/-- Every spelling of some words has the setter of those words. -/
theorem setterName_eq_camelText {w : Word} {ws : List Word} {name : Text}
    (h : Spelling (w :: ws) name) : setterName name = camelText w ws := by
  obtain ⟨r, hr, hwords⟩ := words_of_spelling h
  have hcap : (words name.chars).flatMap capitalize =
      (w :: ws).flatMap fun v => capitalize v.text := by
    rw [hwords, ← hr, List.flatMap_map, List.flatMap_map]
    exact List.flatMap_congr fun p _ => p.2.capitalize_spell p.1
  rw [setterName, camel, pascal, hcap, List.flatMap_cons, Word.capitalize_text, List.cons_append,
    lowerFirst, lower_upper w.isLower_first]
  rfl

/-- The setter name is a spelling: joined words, the first one in small letters. -/
theorem spelling_camelText (w : Word) (ws : List Word) : Spelling (w :: ws) (camelText w ws) := by
  have hw : ((Style.small, w) :: ws.map (Style.capitalized, ·)).map (·.2) = w :: ws := by
    rw [List.map_cons, List.map_map]
    exact congrArg _ (List.map_id _)
  have hfollow : ∀ (p : StyledWord) (v : Word), CanFollow p (.capitalized, v) := by
    intro p v
    constructor
    · intro h
      cases h
    · intro _ _ h
      cases h
  -- Only the first word is small, so every pair of neighbours ends in a capitalized word.
  have hchain : List.IsChain CanFollow ((Style.small, w) :: ws.map (Style.capitalized, ·)) := by
    apply List.Pairwise.isChain
    rw [List.pairwise_cons, List.pairwise_map]
    constructor
    · intro q hq
      obtain ⟨v, _, rfl⟩ := List.mem_map.mp hq
      exact hfollow _ v
    · exact List.pairwise_of_forall fun _ v => hfollow _ v
  have htext : ((Style.small, w) :: ws.map (Style.capitalized, ·)).flatMap StyledWord.text =
      camelText w ws := by
    rw [List.flatMap_cons, List.flatMap_map, camelText, Text.ofChars, List.map_append,
      List.map_flatMap]
    rfl
  rw [← htext]
  exact .joined hw hchain

/-- Words in one style with one separator between any two of them, as in snake case. -/
theorem spelling_join (s : Style) {separator : Text} (hs : IsGap separator) (hne : separator ≠ [])
    (w : Word) (ws : List Word) :
    Spelling (w :: ws) (Text.join separator ((w :: ws).map fun v => StyledWord.text (s, v))) := by
  have hr : ∀ w, Separated ((w :: ws).map (s, ·))
      (Text.join separator ((w :: ws).map fun v => StyledWord.text (s, v))) := by
    induction ws with
    | nil =>
      intro w
      have hlast := Separated.last (s, w) isGap_nil
      rw [List.append_nil] at hlast
      rw [Text.join, List.map_singleton, List.map_singleton, List.intercalate_singleton]
      exact hlast
    | cons v ws ih =>
      intro w
      rw [Text.join, List.map_cons, List.map_cons, List.map_cons, List.map_cons,
        List.intercalate_cons_cons]
      exact Separated.cons (s, w) hs hne (ih v)
  have hw : ((w :: ws).map (s, ·)).map (·.2) = w :: ws := by
    rw [List.map_map]
    exact List.map_id _
  exact .separated hw isGap_nil (hr w)

/-- All spellings of some words split into these words and have one setter name, which is itself
a spelling of them. -/
theorem setterName_of_spelling {w : Word} {ws : List Word} {name : Text}
    (h : Spelling (w :: ws) name) :
    (words name.chars).map (·.map lower) = (w :: ws).map Word.text ∧
      setterName name = camelText w ws ∧
      (∀ other, Spelling (w :: ws) other → setterName other = setterName name) ∧
      Spelling (w :: ws) (setterName name) ∧ setterName (setterName name) = setterName name ∧
      (words (setterName name).chars).map (·.map lower) = (w :: ws).map Word.text := by
  have hlower : ∀ {s : Text}, Spelling (w :: ws) s →
      (words s.chars).map (·.map lower) = (w :: ws).map Word.text := by
    intro s hs
    obtain ⟨r, hr, hwords⟩ := words_of_spelling hs
    rw [hwords, ← hr, List.map_map, List.map_map]
    exact List.map_congr_left fun p _ => p.2.map_lower_spell p.1
  have hname := setterName_eq_camelText h
  have hself : Spelling (w :: ws) (setterName name) := by
    rw [hname]
    exact spelling_camelText w ws
  refine ⟨hlower h, hname, fun other ho => ?_, hself, ?_, hlower hself⟩
  · rw [setterName_eq_camelText ho, hname]
  · rw [setterName_eq_camelText hself, hname]

def Word.use : Word where
  first := 'u'
  second := 's'
  more := ['e']
  digits := []
  letters_lower := List.all_eq_true.mp (by decide)
  digits_class := List.all_eq_true.mp (by decide)
  no_version := by decide

def Word.fips : Word where
  first := 'f'
  second := 'i'
  more := ['p', 's']
  digits := []
  letters_lower := List.all_eq_true.mp (by decide)
  digits_class := List.all_eq_true.mp (by decide)
  no_version := by decide

/-- The parameter of FIPS endpoints has one setter, joined or in snake case with capitals. -/
theorem setterName_useFips :
    Spelling [.use, .fips] (Text.ofString "UseFIPS") ∧
      setterName (Text.ofString "UseFIPS") = Text.ofString "useFips" ∧
      setterName (Text.ofString "USE_FIPS") = setterName (Text.ofString "UseFIPS") := by
  have hjoined : Spelling [.use, .fips] (Text.ofString "UseFIPS") :=
    Spelling.joined (r := [(.capitalized, .use), (.capitals, .fips)]) rfl (by simp [CanFollow])
  have hgap : IsGap (Text.ofString "_") := by decide
  have hsnake : Spelling [.use, .fips] (Text.ofString "USE_FIPS") :=
    spelling_join .capitals hgap (by decide) .use [.fips]
  obtain ⟨_, hname, hother, _⟩ := setterName_of_spelling hjoined
  exact ⟨hjoined, hname, hother _ hsnake⟩

end Setter

end ClientBuilder
