import ClientBuilder.Proofs.Json.Numbers
import ClientBuilder.Proofs.Json.Strings

/-!
Values read back. What is written in either layout is JSON, and it is read back as the value, with
the halves of a character paired wherever they stand next to each other in a string or a name.
-/

namespace ClientBuilder.Json

mutual

/-- A value with the halves of characters paired in all its strings and names. -/
def paired : Json → Json
  | string s => string s.paired
  | array items => array (pairedItems items)
  | object fields => object (pairedFields fields)
  | j => j

def pairedItems : List Json → List Json
  | [] => []
  | x :: r => paired x :: pairedItems r

def pairedFields : List (Text × Json) → List (Text × Json)
  | [] => []
  | (k, v) :: r => (k.paired, paired v) :: pairedFields r

end

theorem pairedItems_eq_map (items : List Json) : pairedItems items = items.map paired := by
  induction items with
  | nil => rfl
  | cons x r ih => rw [pairedItems, ih, List.map_cons]

theorem pairedFields_eq_map (fields : List (Text × Json)) :
    pairedFields fields = fields.map fun f => (f.1.paired, f.2.paired) := by
  induction fields with
  | nil => rfl
  | cons f r ih => rw [pairedFields, ih, List.map_cons]

/-! ### White space -/

theorem skipSpace_of_not_isSpace {c : Char} (h : isSpace c = false) (r : List Char) :
    skipSpace (c :: r) = c :: r := by
  rw [skipSpace, List.dropWhile_cons_of_neg (by simp [h])]

theorem skipSpace_cons_of_isSpace {c : Char} (h : isSpace c = true) (r : List Char) :
    skipSpace (c :: r) = skipSpace r := by
  rw [skipSpace, List.dropWhile_cons_of_pos h, skipSpace]

theorem skipSpace_replicate (n : Nat) (r : List Char) :
    skipSpace (List.replicate n ' ' ++ r) = skipSpace r := by
  induction n with
  | zero => rfl
  | succ n ih => rw [List.replicate_succ, List.cons_append, skipSpace_cons_of_isSpace rfl, ih]

/-- Layout is white space to the reader. -/
theorem skipSpace_lineStart (layout : Layout) (level : Nat) (r : List Char) :
    skipSpace (layout.lineStart level ++ r) = skipSpace r := by
  cases layout with
  | compact => rfl
  | indented step =>
    rw [Layout.lineStart, List.cons_append, skipSpace_cons_of_isSpace rfl, skipSpace_replicate]

theorem colon_eq_cons (layout : Layout) :
    ∃ blanks, layout.colon = ':' :: blanks ∧ ∀ r, skipSpace (blanks ++ r) = skipSpace r := by
  cases layout with
  | compact => exact ⟨[], rfl, fun r => rfl⟩
  | indented step => exact ⟨[' '], rfl, fun r => skipSpace_cons_of_isSpace rfl r⟩

/-! ### What stands in front -/

def StartsNumber (c : Char) : Prop :=
  c.isDigit = true ∨ c = '-' ∨ c = 'I' ∨ c = 'N'

instance : DecidablePred StartsNumber :=
  fun c => inferInstanceAs (Decidable (c.isDigit = true ∨ c = '-' ∨ c = 'I' ∨ c = 'N'))

theorem StartsNumber.ne {c d : Char} (h : StartsNumber c) (hd : ¬ StartsNumber d) : c ≠ d := by
  rintro rfl
  exact hd h

theorem startsNumber_minus_decimal (negative : Bool) (n : Nat) (r : List Char) :
    ∃ c r', minus negative ++ Text.decimal n ++ r = c :: r' ∧ StartsNumber c := by
  obtain ⟨d, s, hd, hdigit⟩ := Text.decimal_eq_cons n
  rw [hd]
  cases negative with
  | true => exact ⟨'-', d :: s ++ r, rfl, by decide⟩
  | false => exact ⟨d, s ++ r, rfl, Or.inl hdigit⟩

theorem startsNumber_signedDecimal (n : Int) :
    ∃ c r, Text.signedDecimal n = c :: r ∧ StartsNumber c := by
  have h := startsNumber_minus_decimal (decide (n < 0)) n.natAbs []
  rwa [List.append_nil, ← signedDecimal_eq] at h

theorem startsNumber_minus_infinityWord (negative : Bool) :
    ∃ c r, minus negative ++ infinityWord = c :: r ∧ StartsNumber c := by
  rw [infinityWord_eq]
  cases negative <;> exact ⟨_, _, rfl, by decide⟩

theorem startsNumber_notANumberWord : ∃ c r, notANumberWord = c :: r ∧ StartsNumber c :=
  ⟨'N', ['a', 'N'], notANumberWord_eq, by decide⟩

/-- A value is written from a character on that is no white space and does not end a list. -/
theorem write_eq_cons (layout : Layout) (level : Nat) (j : Json) :
    ∃ c r, write layout level j = c :: r ∧ isSpace c = false ∧ c ≠ ']' := by
  have hnumber {s : List Char} (h : ∃ c r, s = c :: r ∧ StartsNumber c) :
      ∃ c r, s = c :: r ∧ isSpace c = false ∧ c ≠ ']' := by
    obtain ⟨c, r, hs, hc⟩ := h
    refine ⟨c, r, hs, ?_, hc.ne (by decide)⟩
    simp only [isSpace, hc.ne (by decide : ¬ StartsNumber ' '), decide_false,
      hc.ne (by decide : ¬ StartsNumber '\n'), hc.ne (by decide : ¬ StartsNumber '\t'),
      hc.ne (by decide : ¬ StartsNumber '\r'), Bool.or_self]
  cases j with
  | null => exact ⟨'n', _, rfl, rfl, by decide⟩
  | bool b => cases b <;> exact ⟨_, _, rfl, rfl, by decide⟩
  | int n => exact hnumber (startsNumber_signedDecimal n)
  | decimal negative n e => exact hnumber (startsNumber_minus_decimal negative n _)
  | infinite negative => exact hnumber (startsNumber_minus_infinityWord negative)
  | notANumber => exact hnumber startsNumber_notANumberWord
  | string s => exact ⟨'"', _, rfl, rfl, by decide⟩
  | array items => cases items <;> exact ⟨'[', _, rfl, rfl, by decide⟩
  | object fields =>
    cases fields with
    | nil => exact ⟨'\x7b', _, rfl, rfl, by decide⟩
    | cons f r => exact ⟨'\x7b', _, rfl, rfl, by decide⟩

theorem skipSpace_write (layout : Layout) (level : Nat) (j : Json) (s : List Char) :
    skipSpace (write layout level j ++ s) = write layout level j ++ s := by
  obtain ⟨c, r, hc, hspace, -⟩ := write_eq_cons layout level j
  rw [hc, List.cons_append, skipSpace_of_not_isSpace hspace]

/-- What starts like a number is read as one. -/
theorem readValue_number (fuel : Nat) {s : List Char} (h : ∃ c r, s = c :: r ∧ StartsNumber c)
    (rest : List Char) : readValue (fuel + 1) (s ++ rest) = readNumber (s ++ rest) := by
  obtain ⟨c, r, rfl, hc⟩ := h
  have hn := hc.ne (by decide : ¬ StartsNumber 'n')
  have ht := hc.ne (by decide : ¬ StartsNumber 't')
  have hf := hc.ne (by decide : ¬ StartsNumber 'f')
  have hquote := hc.ne (by decide : ¬ StartsNumber '"')
  have hbracket := hc.ne (by decide : ¬ StartsNumber '[')
  have hbrace := hc.ne (by decide : ¬ StartsNumber '\x7b')
  rw [List.cons_append, readValue] <;> simp [hn, ht, hf, hquote, hbracket, hbrace]

/-! ### What stands behind -/

theorem stops_lineStart (layout : Layout) (level : Nat) {rest : List Char} (h : Stops rest) :
    Stops (layout.lineStart level ++ rest) := by
  cases layout with
  | compact => exact h
  | indented step => exact Stops.of_cons _ (by decide)

/-- No number goes on into the items that follow. -/
theorem stops_writeItems (layout : Layout) (level : Nat) (items : List Json) {rest : List Char}
    (h : Stops rest) : Stops (writeItems layout level items ++ rest) := by
  cases items with
  | nil => exact h
  | cons x r => exact Stops.of_cons _ (by decide)

theorem stops_writeFields (layout : Layout) (level : Nat) (fields : List (Text × Json))
    {rest : List Char} (h : Stops rest) : Stops (writeFields layout level fields ++ rest) := by
  cases fields with
  | nil => exact h
  | cons f r => exact Stops.of_cons _ (by decide)

/-! ### Values -/

theorem quote_append (t : Text) (rest : List Char) :
    quote t ++ rest = '"' :: (t.flatMap escapePoint ++ '"' :: rest) := by
  rw [quote, List.cons_append, List.cons_append, List.append_assoc, List.singleton_append]

/-- A field is read back from what stands behind its opening quote, if its value is. -/
theorem readField_quoted (layout : Layout) (k : Text) {v : Json} {fuel : Nat} {s rest : List Char}
    (hs : skipSpace s = s) (hv : readValue fuel s = some (v, rest)) :
    readField (fuel + 1) (k.flatMap escapePoint ++ '"' :: (layout.colon ++ s)) =
      some ((k.paired, v), rest) := by
  obtain ⟨blanks, hcolon, hblanks⟩ := colon_eq_cons layout
  rw [readField, readString_quoted, hcolon]
  simp only [Option.bind_eq_bind, Option.bind_some, List.cons_append,
    skipSpace_of_not_isSpace (rfl : isSpace ':' = false), hblanks, hs, hv]
  rfl

mutual

/-- A value is read back with what follows it, on as much fuel as it has characters. -/
theorem readValue_write (layout : Layout) (level : Nat) (j : Json) (fuel : Nat)
    {rest : List Char} (hf : (write layout level j).length ≤ fuel) (hr : Stops rest) :
    readValue fuel (write layout level j ++ rest) = some (j.paired, rest) := by
  obtain ⟨c, r, hc, -⟩ := write_eq_cons layout level j
  obtain ⟨fuel, rfl⟩ : ∃ k, fuel = k + 1 := by
    rw [hc, List.length_cons] at hf
    exact ⟨fuel - 1, by omega⟩
  match j with
  | null => rfl
  | bool true => rfl
  | bool false => rfl
  | int n =>
    rw [write, readValue_number fuel (startsNumber_signedDecimal n), readNumber_signedDecimal n hr]
    rfl
  | decimal negative n e =>
    rw [write, readValue_number fuel (startsNumber_minus_decimal negative n _),
      readNumber_decimal negative n e hr]
    rfl
  | infinite negative =>
    rw [write, readValue_number fuel (startsNumber_minus_infinityWord negative),
      readNumber_infinite]
    rfl
  | notANumber =>
    rw [write, readValue_number fuel startsNumber_notANumberWord, readNumber_notANumber]
    rfl
  | string s =>
    rw [write, quote_append, readValue, readString_quoted]
    rfl
  | array [] => rfl
  | array (x :: xs) =>
    simp only [write, List.length_cons, List.length_append, List.length_nil] at hf
    -- What follows an item is a comma, a new line or the bracket, where a number stops.
    have hx := readValue_write layout (level + 1) x fuel (by omega)
      (stops_writeItems layout (level + 1) xs (stops_lineStart layout level
        (Stops.of_cons rest (by decide : (']').isDigit = false ∧ _))))
    have hxs := readItems_writeItems layout (level + 1) level xs fuel rest (by omega)
    obtain ⟨d, s, hd, -, hne⟩ := write_eq_cons layout (level + 1) x
    simp only [write, List.cons_append, List.append_assoc, List.nil_append]
    rw [readValue, skipSpace_lineStart, skipSpace_write]
    split
    · next h =>
      -- The list is not taken to be empty: no item starts with the bracket.
      rw [hd] at h
      exact absurd (List.cons.inj h).1 hne
    · simp only [hx, hxs, Option.bind_eq_bind, Option.bind_some]
      rfl
  | object [] => rfl
  | object ((k, v) :: fs) =>
    simp only [write, List.length_cons, List.length_append, List.length_nil] at hf
    -- One unit of fuel goes to the field, besides what its value takes.
    obtain ⟨fuel, rfl⟩ : ∃ k, fuel = k + 1 := ⟨fuel - 1, by omega⟩
    have hv := readValue_write layout (level + 1) v fuel (by omega)
      (stops_writeFields layout (level + 1) fs (stops_lineStart layout level
        (Stops.of_cons rest (by decide : ('\x7d').isDigit = false ∧ _))))
    have hfield := readField_quoted layout k (skipSpace_write layout (level + 1) v _) hv
    have hfs := readFields_writeFields layout (level + 1) level fs (fuel + 1) rest (by omega)
    simp only [write, List.cons_append, List.append_assoc, List.nil_append, quote_append]
    rw [readValue, skipSpace_lineStart, skipSpace_of_not_isSpace rfl]
    simp only [hfield, hfs, Option.bind_eq_bind, Option.bind_some]
    rfl

/-- The items after the first one are read back up to the closing bracket, which may stand on a
line of its own. -/
theorem readItems_writeItems (layout : Layout) (level close : Nat) (items : List Json) (fuel : Nat)
    (rest : List Char) (hf : (writeItems layout level items).length < fuel) :
    readItems fuel (skipSpace (writeItems layout level items ++ (layout.lineStart close
      ++ ']' :: rest))) = some (pairedItems items, rest) := by
  obtain ⟨fuel, rfl⟩ : ∃ k, fuel = k + 1 := ⟨fuel - 1, by omega⟩
  have hclose : Stops (layout.lineStart close ++ ']' :: rest) :=
    stops_lineStart layout close (Stops.of_cons rest (by decide))
  match items with
  | [] =>
    rw [writeItems, List.nil_append, skipSpace_lineStart, skipSpace_of_not_isSpace rfl, readItems,
      pairedItems]
  | x :: xs =>
    simp only [writeItems, List.length_cons, List.length_append] at hf
    have hx := readValue_write layout level x fuel (by omega)
      (stops_writeItems layout level xs hclose)
    have hxs := readItems_writeItems layout level close xs fuel rest (by omega)
    simp only [writeItems, List.cons_append, List.append_assoc]
    rw [skipSpace_of_not_isSpace rfl, readItems, skipSpace_lineStart, skipSpace_write, hx]
    simp only [hxs, Option.bind_eq_bind, Option.bind_some]
    rfl

/-- The fields after the first one are read back up to the closing brace, which may stand on a line
of its own. -/
theorem readFields_writeFields (layout : Layout) (level close : Nat) (fields : List (Text × Json))
    (fuel : Nat) (rest : List Char) (hf : (writeFields layout level fields).length < fuel) :
    readFields fuel (skipSpace (writeFields layout level fields ++ (layout.lineStart close
      ++ '\x7d' :: rest))) = some (pairedFields fields, rest) := by
  obtain ⟨fuel, rfl⟩ : ∃ k, fuel = k + 1 := ⟨fuel - 1, by omega⟩
  have hclose : Stops (layout.lineStart close ++ '\x7d' :: rest) :=
    stops_lineStart layout close (Stops.of_cons rest (by decide))
  match fields with
  | [] =>
    rw [writeFields, List.nil_append, skipSpace_lineStart, skipSpace_of_not_isSpace rfl, readFields,
      pairedFields]
  | (k, v) :: fs =>
    simp only [writeFields, List.length_cons, List.length_append] at hf
    obtain ⟨fuel, rfl⟩ : ∃ k, fuel = k + 1 := ⟨fuel - 1, by omega⟩
    have hv := readValue_write layout level v fuel (by omega)
      (stops_writeFields layout level fs hclose)
    have hfield := readField_quoted layout k (skipSpace_write layout level v _) hv
    have hfs := readFields_writeFields layout level close fs (fuel + 1) rest (by omega)
    simp only [writeFields, List.cons_append, List.append_assoc, quote_append]
    rw [skipSpace_of_not_isSpace rfl, readFields, skipSpace_lineStart, skipSpace_of_not_isSpace rfl]
    simp only [hfield, hfs, Option.bind_eq_bind, Option.bind_some]
    rfl

end

/-- The text of a value is JSON for it, with the halves of characters paired. -/
theorem ofText_render (layout : Layout) (j : Json) :
    ofText (render layout j) = some j.paired := by
  have hend : Stops [] := by
    rintro _ _ ⟨⟩
  have hread := readValue_write layout 0 j (2 * (write layout 0 j).length + 2) (by omega) hend
  rw [List.append_nil] at hread
  have hstart := skipSpace_write layout 0 j []
  rw [List.append_nil] at hstart
  rw [ofText, render, String.toList_ofList]
  simp only [hstart, hread]
  rfl

/-! ### Values that are written alike -/

theorem quote_paired (t : Text) : quote t.paired = quote t := by
  rw [quote, quote, flatMap_escapePoint_paired]

mutual

/-- The halves of a character and the character itself are written alike. -/
theorem write_paired (layout : Layout) (level : Nat) (j : Json) :
    write layout level j.paired = write layout level j := by
  match j with
  | null => rfl
  | bool b => rfl
  | int n => rfl
  | decimal negative n e => rfl
  | infinite negative => rfl
  | notANumber => rfl
  | string s => exact quote_paired s
  | array [] => rfl
  | array (x :: xs) =>
    rw [paired, pairedItems, write, write, write_paired layout (level + 1) x,
      writeItems_paired layout (level + 1) xs]
  | object [] => rfl
  | object ((k, v) :: fs) =>
    rw [paired, pairedFields, write, write, quote_paired, write_paired layout (level + 1) v,
      writeFields_paired layout (level + 1) fs]

theorem writeItems_paired (layout : Layout) (level : Nat) (items : List Json) :
    writeItems layout level (pairedItems items) = writeItems layout level items := by
  match items with
  | [] => rfl
  | x :: xs =>
    rw [pairedItems, writeItems, writeItems, write_paired layout level x,
      writeItems_paired layout level xs]

theorem writeFields_paired (layout : Layout) (level : Nat) (fields : List (Text × Json)) :
    writeFields layout level (pairedFields fields) = writeFields layout level fields := by
  match fields with
  | [] => rfl
  | (k, v) :: fs =>
    rw [pairedFields, writeFields, writeFields, quote_paired, write_paired layout level v,
      writeFields_paired layout level fs]

end

/-- Two values have one text if and only if pairing makes them equal. -/
theorem render_eq_iff (layout : Layout) (j j' : Json) :
    render layout j = render layout j' ↔ j.paired = j'.paired := by
  constructor
  · intro h
    have hread := ofText_render layout j
    rw [h, ofText_render] at hread
    exact (Option.some.inj hread).symm
  · intro h
    rw [render, render, ← write_paired, h, write_paired]

end ClientBuilder.Json
