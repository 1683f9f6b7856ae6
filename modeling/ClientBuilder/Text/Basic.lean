/-!
Texts. A text is a row of code points. Nearly all of them are characters; a document can also name a
surrogate by its number, which is no character and cannot be written in UTF-8, but still holds a
place of the text.
-/

namespace ClientBuilder

inductive CodePoint where
  | char (c : Char)
  -- A surrogate that stands alone, by its distance from the first one, U+D800.
  | surrogate (offset : Fin 0x800)
  deriving Repr, DecidableEq, Inhabited

namespace CodePoint

def toNat : CodePoint → Nat
  | char c => c.toNat
  | surrogate s => 0xD800 + s

def ofNat? (n : Nat) : Option CodePoint :=
  if n.isValidChar then some (char (Char.ofNat n))
  else if h : 0xD800 ≤ n ∧ n < 0xE000 then some (surrogate ⟨n - 0xD800, by omega⟩)
  else none

def isChar : CodePoint → Bool
  | char _ => true
  | surrogate _ => false

/-- The characters that a code point is shown as. A surrogate is shown as what its three bytes would
be read as: three replacement characters. -/
def shown : CodePoint → List Char
  | char c => [c]
  | surrogate _ => List.replicate 3 '\uFFFD'

end CodePoint

abbrev Text :=
  List CodePoint

namespace Text

def ofChars (s : List Char) : Text :=
  s.map .char

def ofString (s : String) : Text :=
  ofChars s.toList

instance : Coe String Text :=
  ⟨ofString⟩

def isWhole (t : Text) : Bool :=
  t.all CodePoint.isChar

def chars (t : Text) : List Char :=
  t.flatMap CodePoint.shown

/-- The characters that a text is shown as, as a string. -/
def shown (t : Text) : String :=
  String.ofList t.chars

def join (separator : Text) (texts : List Text) : Text :=
  separator.intercalate texts

def le : Text → Text → Bool
  | [], _ => true
  | _ :: _, [] => false
  | c :: s, d :: t => c.toNat < d.toNat || c.toNat = d.toNat && le s t

theorem chars_ofChars (s : List Char) : (ofChars s).chars = s := by
  induction s with
  | nil => rfl
  | cons c r ih =>
    have h : (ofChars (c :: r)).chars = c :: (ofChars r).chars := rfl
    rw [h, ih]

theorem shown_ofString (s : String) : (ofString s).shown = s := by
  rw [shown, ofString, chars_ofChars, String.ofList_toList]

theorem ofString_inj {s s' : String} (h : ofString s = ofString s') : s = s' := by
  rw [← shown_ofString s, h, shown_ofString]

theorem isWhole_ofChars (s : List Char) : (ofChars s).isWhole = true := by
  simp [ofChars, isWhole, CodePoint.isChar]

theorem isWhole_ofString (s : String) : (ofString s).isWhole = true :=
  isWhole_ofChars s.toList

/-- A text is whole if its parts are. -/
theorem isWhole_append (s t : Text) : (s ++ t).isWhole = (s.isWhole && t.isWhole) :=
  List.all_append

end Text

end ClientBuilder
