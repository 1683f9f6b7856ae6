import ClientBuilder.Proofs.Setter.Rows

namespace ClientBuilder.Setter

/-- A word: at least two small letters and then digits, but not one letter with a version. -/
structure Word where
  first : Char
  second : Char
  more : List Char
  digits : List Char
  letters_lower : ∀ c ∈ first :: second :: more, isLower c = true
  digits_class : ∀ c ∈ digits, isDigit c = true
  no_version : second = 'v' → more = [] → digits = []

inductive Style where
  | small
  | capitalized
  | capitals
  deriving DecidableEq

def Style.apply : Style → List Char → List Char
  | small, s => s
  | capitalized, s => capitalize s
  | capitals, s => s.map upper

namespace Word

def text (w : Word) : List Char :=
  w.first :: w.second :: w.more ++ w.digits

def spell (w : Word) (s : Style) : List Char :=
  s.apply w.text

theorem isLower_first (w : Word) : isLower w.first = true :=
  w.letters_lower _ List.mem_cons_self

theorem isLower_of_mem {w : Word} {c : Char} (hc : c ∈ w.second :: w.more) : isLower c = true :=
  w.letters_lower c (List.mem_cons_of_mem _ hc)

theorem isUpper_upper_of_mem {w : Word} {c : Char} (hc : c ∈ (w.second :: w.more).map upper) :
    isUpper c = true := by
  obtain ⟨d, hd, rfl⟩ := List.mem_map.mp hc
  exact isUpper_upper (isLower_of_mem hd)

def token (w : Word) : Style → Token
  | .small =>
    { head := w.first
      second := w.second
      more := w.more
      digits := w.digits
      capitals := false
      isLetter_head := (isLetter_iff _).mpr (Or.inl w.isLower_first)
      isUpper_head := by intro h; cases h
      letters_class := fun c hc => isLower_of_mem hc
      digits_class := w.digits_class
      no_version := w.no_version }
  | .capitalized =>
    { head := upper w.first
      second := w.second
      more := w.more
      digits := w.digits
      capitals := false
      isLetter_head := (isLetter_iff _).mpr (Or.inr (isUpper_upper w.isLower_first))
      isUpper_head := by intro h; cases h
      letters_class := fun c hc => isLower_of_mem hc
      digits_class := w.digits_class
      no_version := w.no_version }
  | .capitals =>
    { head := upper w.first
      second := upper w.second
      more := w.more.map upper
      digits := w.digits
      capitals := true
      isLetter_head := (isLetter_iff _).mpr (Or.inr (isUpper_upper w.isLower_first))
      isUpper_head := fun _ => isUpper_upper w.isLower_first
      letters_class := fun c hc => isUpper_upper_of_mem (w := w) hc
      digits_class := w.digits_class
      no_version := by
        intro h
        have hu := isUpper_upper_of_mem (w := w) List.mem_cons_self
        rw [h] at hu
        cases hu }

theorem lower_of_mem_text {w : Word} {c : Char} (hc : c ∈ w.text) : lower c = c := by
  apply lower_of_isUpper_eq_false
  rcases List.mem_append.mp hc with hl | hd
  · exact isUpper_eq_false_of_isLower (w.letters_lower c hl)
  · exact isUpper_eq_false_of_isDigit (w.digits_class c hd)

theorem map_lower_text (w : Word) : w.text.map lower = w.text :=
  List.map_congr_left (fun _ hc => lower_of_mem_text hc) |>.trans (List.map_id _)

theorem map_upper_digits (w : Word) : w.digits.map upper = w.digits :=
  List.map_congr_left (fun _ hc => upper_of_isDigit (w.digits_class _ hc)) |>.trans (List.map_id _)

/-- Capitalizing changes the first letter alone. -/
theorem capitalize_text (w : Word) :
    capitalize w.text = upper w.first :: (w.second :: w.more ++ w.digits) := by
  have h := w.map_lower_text
  rw [text, List.cons_append, List.map_cons] at h
  rw [text, List.cons_append, capitalize, (List.cons.inj h).2]

theorem chars_token (w : Word) (s : Style) : (w.token s).chars = w.spell s := by
  cases s with
  | small => rfl
  | capitalized => exact w.capitalize_text.symm
  | capitals =>
    rw [spell, Style.apply, text, List.map_append, map_upper_digits]
    rfl

/-- In small letters, all spellings of a word are the word. -/
theorem map_lower_spell (w : Word) (s : Style) : (w.spell s).map lower = w.text := by
  cases s with
  | small => exact w.map_lower_text
  | capitalized =>
    have h := w.map_lower_text
    rw [text, List.cons_append, List.map_cons] at h
    rw [spell, Style.apply, capitalize_text, List.map_cons, lower_upper w.isLower_first,
      (List.cons.inj h).2]
    rfl
  | capitals =>
    rw [spell, Style.apply, List.map_map]
    refine (List.map_congr_left fun c hc => ?_).trans (List.map_id _)
    rcases List.mem_append.mp hc with hl | hd
    · exact lower_upper (w.letters_lower c hl)
    · rw [Function.comp_apply, upper_of_isDigit (w.digits_class c hd)]
      exact lower_of_mem_text hc

/-- In whatever style a word is written, it is capitalized alike. -/
theorem capitalize_spell (w : Word) (s : Style) : capitalize (w.spell s) = capitalize w.text := by
  have h := w.map_lower_spell s
  rw [← chars_token, Token.chars, List.map_cons, text, List.cons_append] at h
  obtain ⟨_, hb⟩ := List.cons.inj h
  rw [capitalize_text, ← chars_token, Token.chars, capitalize, hb]
  have hu : upper (w.token s).head = upper w.first := by
    cases s with
    | small => rfl
    | _ =>
      have hup := isUpper_upper w.isLower_first
      show upper (upper w.first) = upper w.first
      rw [upper, isLower_eq_false_of_isUpper hup]
      rfl
  rw [hu]

end Word

end ClientBuilder.Setter
