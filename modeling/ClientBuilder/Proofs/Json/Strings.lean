import ClientBuilder.Json.Printer
import ClientBuilder.Json.Reader
import Mathlib.Tactic.Ring

namespace ClientBuilder

def CodePoint.ofHalves? : CodePoint → CodePoint → Option CodePoint
  | surrogate high, surrogate low =>
    if high.val < 0x400 ∧ 0x400 ≤ low.val then
      some (.char (Char.ofNat (0x10000 + high.val * 0x400 + (low.val - 0x400))))
    else none
  | _, _ => none

def Text.paired : Text → Text
  | c :: d :: r =>
    match CodePoint.ofHalves? c d with
    | some e => e :: paired r
    | none => c :: paired (d :: r)
  | t => t

namespace Text

/-- Hexadecimal digits are read back, whatever was read before them. -/
theorem foldlM_hexValue? (width n : Nat) (start : Nat) :
    (hex width n).foldlM (fun n c => (hexValue? c).map (16 * n + ·)) start =
      some (start * 16 ^ width + n % 16 ^ width) := by
  induction width generalizing n with
  | zero => simp [hex, Nat.mod_one]
  | succ width ih =>
    have hdigit := hexValue?_hexDigit (n % 16) (Nat.mod_lt n (by decide))
    have hmod : n % 16 ^ (width + 1) = 16 * (n / 16 % 16 ^ width) + n % 16 := by
      rw [Nat.pow_succ, Nat.mul_comm, Nat.mod_mul, Nat.add_comm]
    rw [hex, List.foldlM_append, ih, hmod, Nat.pow_succ]
    simp only [Option.bind_eq_bind, Option.bind_some, List.foldlM_cons, List.foldlM_nil, hdigit,
      Option.map_some, Option.pure_def, Option.some.injEq]
    ring

/-- Four hexadecimal digits hold every 16-bit unit. -/
theorem ofHex?_hex {n : Nat} (h : n < 0x10000) : ofHex? (hex 4 n) = some n := by
  have hmod : n % 16 ^ 4 = n := Nat.mod_eq_of_lt h
  rw [ofHex?, foldlM_hexValue?, Nat.zero_mul, Nat.zero_add, hmod]

theorem hex_four (n : Nat) : hex 4 n =
    [hexDigit (n / 16 / 16 / 16 % 16), hexDigit (n / 16 / 16 % 16), hexDigit (n / 16 % 16),
      hexDigit (n % 16)] := rfl

/-- No two neighbours of a text are the halves of a character. -/
def HasNoPair (t : Text) : Prop :=
  t.IsChain fun c d => CodePoint.ofHalves? c d = none

/-- Pairing makes no text longer. -/
theorem length_paired_le (t : Text) : t.paired.length ≤ t.length := by
  fun_induction paired t with
  | case1 c d r e h ih =>
    simp only [List.length_cons]
    omega
  | case2 c d r h ih =>
    simp only [List.length_cons] at ih ⊢
    omega
  | case3 t => exact Nat.le_refl t.length

/-- Pairing changes exactly the texts that have a pair. -/
theorem paired_eq_self_iff {t : Text} : t.paired = t ↔ t.HasNoPair := by
  fun_induction paired t with
  | case1 c d r e h ih =>
    have hle := length_paired_le r
    refine iff_of_false (fun heq => ?_) fun hchain => ?_
    · have hlength := congrArg List.length heq
      simp only [List.length_cons] at hlength
      omega
    · have hnone := (List.isChain_cons_cons.mp hchain).1
      rw [h] at hnone
      cases hnone
  | case2 c d r h ih =>
    rw [List.cons_inj_right, ih, HasNoPair, HasNoPair, List.isChain_cons_cons]
    exact ⟨fun hr => ⟨h, hr⟩, And.right⟩
  | case3 t ht =>
    refine iff_of_true rfl ?_
    match t, ht with
    | [], _ => exact .nil
    | [c], _ => exact .singleton c
    | c :: d :: r, ht => exact absurd rfl (ht c d r)

theorem paired_of_isWhole {t : Text} (h : t.isWhole = true) : t.paired = t := by
  induction t with
  | nil => rfl
  | cons c r ih =>
    rw [isWhole, List.all_cons, Bool.and_eq_true] at h
    cases c with
    | surrogate k => exact absurd h.1 Bool.false_ne_true
    | char c =>
      have hr := ih h.2
      cases r with
      | nil => rfl
      | cons d r => exact congrArg (.char c :: ·) hr

@[simp]
theorem paired_ofString (s : String) : (ofString s).paired = ofString s :=
  paired_of_isWhole (isWhole_ofString s)

end Text

namespace Json

def lowAhead? : List Char → Option (Nat × List Char)
  | '\\' :: 'u' :: e :: f :: g :: h :: r => (low? [e, f, g, h]).map fun low => (low, r)
  | _ => none

def inFront (c : CodePoint) (x : Text × List Char) : Text × List Char :=
  (c :: x.1, x.2)

/-- An escaped unit is read with its second half, if it is a first half and that one is ahead, and
by itself otherwise. -/
theorem readString_unitEscape {unit : Nat} {alone : CodePoint} (h : unit < 0x10000)
    (ha : CodePoint.ofNat? unit = some alone) (s : List Char) :
    readString (unitEscape unit ++ s) =
      match if isHigh unit then lowAhead? s else none with
      | some (low, r) => (readString r).map (inFront (ofUnits unit low))
      | none => (readString s).map (inFront alone) := by
  have hx := Text.ofHex?_hex h
  rw [unitEscape, Text.hex_four] at *
  simp only [List.cons_append, List.nil_append]
  rw [readString]
  simp only [hx, ha, Option.bind_eq_bind, Option.bind_some]
  split
  · next e f g i r =>
    rw [lowAhead?]
    cases isHigh unit with
    | false =>
      simp only [Bool.false_eq_true, if_false]
      cases readString ('\\' :: 'u' :: e :: f :: g :: i :: r) <;> rfl
    | true =>
      simp only [if_true]
      cases low? [e, f, g, i] with
      | none =>
        simp only [Option.map_none]
        cases readString ('\\' :: 'u' :: e :: f :: g :: i :: r) <;> rfl
      | some low =>
        simp only [Option.map_some]
        cases readString r <;> rfl
  · next hs =>
    have hn : lowAhead? s = none := by
      rw [lowAhead?]
      exact hs
    rw [hn, ite_self]
    dsimp only
    cases readString s <;> rfl

theorem lowAhead?_unitEscape {unit : Nat} (h : unit < 0x10000) (s : List Char) :
    lowAhead? (unitEscape unit ++ s) =
      if 0xDC00 ≤ unit ∧ unit < 0xE000 then some (unit, s) else none := by
  have hx := Text.ofHex?_hex h
  rw [unitEscape, Text.hex_four] at *
  simp only [List.cons_append, List.nil_append, lowAhead?, low?, hx, Option.filter_some,
    Bool.and_eq_true, decide_eq_true_eq]
  split <;> rfl

/-- The code point of a surrogate's number is the surrogate. -/
theorem ofNat?_surrogate (k : Fin 0x800) :
    CodePoint.ofNat? (0xD800 + k.val) = some (.surrogate k) := by
  have hk := k.isLt
  have hn : ¬ (0xD800 + k.val).isValidChar := by
    rw [Nat.isValidChar]
    omega
  rw [CodePoint.ofNat?, if_neg hn, dif_pos (by omega)]
  simp only [Nat.add_sub_cancel_left, Fin.eta]

theorem isHigh_surrogate (k : Fin 0x800) : isHigh (0xD800 + k.val) = decide (k.val < 0x400) := by
  simp only [isHigh, Nat.le_add_right, decide_true, Bool.true_and, decide_eq_decide]
  omega

/-- An escape of one letter is read as what it stands for. -/
theorem readString_simpleEscape {e d : Char} (he : e ≠ 'u') (hs : simpleEscape? e = some d)
    (s : List Char) : readString ('\\' :: e :: s) = (readString s).map (inFront (.char d)) := by
  rw [readString]
  · rw [hs]
    simp only [Option.bind_eq_bind, Option.bind_some]
    cases readString s <;> rfl
  · intro _ _ _ _ _ hu
    exact absurd hu he

/-- A character that stands for itself. -/
theorem readString_plain {c : Char} (hquote : c ≠ '"') (hslash : c ≠ '\\') (h : 0x20 ≤ c.toNat)
    (s : List Char) : readString (c :: s) = (readString s).map (inFront (.char c)) := by
  rw [readString]
  · rw [if_neg (Nat.not_lt.mpr h)]
    cases readString s <;> rfl
  · exact hquote
  · intro _ _ _ _ _ hc
    exact absurd hc hslash
  · intro _ _ hc
    exact absurd hc hslash

/-- A character beyond 16 bits is written as two units. -/
theorem escape_of_le {c : Char} (h : 0x10000 ≤ c.toNat) :
    escape c = unitEscape (0xD800 + (c.toNat - 0x10000) / 0x400)
      ++ unitEscape (0xDC00 + (c.toNat - 0x10000) % 0x400) := by
  have hne {d : Char} (hd : d.toNat < 0x10000) : c ≠ d := by
    rintro rfl
    omega
  have hp : ¬ (' ' ≤ c ∧ c ≤ '~') := by
    rintro ⟨-, hle⟩
    have hnat : c.toNat ≤ 0x7E := hle
    omega
  rw [escape, if_neg (hne (by decide)), if_neg (hne (by decide)), if_neg (hne (by decide)),
    if_neg (hne (by decide)), if_neg (hne (by decide)), if_neg (hne (by decide)),
    if_neg (hne (by decide)), if_neg hp, if_neg (by omega)]

/-- Two units that are ahead of each other are read back as the one character. -/
theorem readString_escape_of_le {c : Char} (h : 0x10000 ≤ c.toNat) (s : List Char) :
    readString (escape c ++ s) = (readString s).map (inFront (.char c)) := by
  have hc : c.toNat < 0xD800 ∨ 0xDFFF < c.toNat ∧ c.toNat < 0x110000 := c.valid
  let n := c.toNat - 0x10000
  let high : Fin 0x800 := ⟨n / 0x400, by omega⟩
  have hsum : 0x10000 + (0xD800 + n / 0x400 - 0xD800) * 0x400 + (0xDC00 + n % 0x400 - 0xDC00) =
      c.toNat := by omega
  have hunits : ofUnits (0xD800 + n / 0x400) (0xDC00 + n % 0x400) = .char c := by
    rw [ofUnits, hsum, Char.ofNat_toNat]
  have hhigh : isHigh (0xD800 + n / 0x400) = true :=
    (isHigh_surrogate high).trans (decide_eq_true (by omega : n / 0x400 < 0x400))
  have hlow : 0xDC00 ≤ 0xDC00 + n % 0x400 ∧ 0xDC00 + n % 0x400 < 0xE000 := by omega
  rw [escape_of_le h, List.append_assoc, readString_unitEscape (by omega) (ofNat?_surrogate high),
    hhigh, if_pos rfl, lowAhead?_unitEscape (by omega), if_pos hlow]
  exact congrArg (fun d => (readString s).map (inFront d)) hunits

/-- A character is read back from its escape. -/
theorem readString_escape (c : Char) (s : List Char) :
    readString (escape c ++ s) = (readString s).map (inFront (.char c)) := by
  by_cases hle : 0x10000 ≤ c.toNat
  · exact readString_escape_of_le hle s
  have hc : c.toNat < 0xD800 ∨ 0xDFFF < c.toNat ∧ c.toNat < 0x110000 := c.valid
  rw [escape]
  -- The seven characters with a letter of their own come first.
  iterate 7
    split
    · next h =>
      subst h
      exact readString_simpleEscape (by decide) rfl s
  split
  · next hquote hslash _ _ _ _ _ hp => exact readString_plain hquote hslash hp.1 s
  split
  · next hlt =>
    have hvalid : CodePoint.ofNat? c.toNat = some (.char c) := by
      rw [CodePoint.ofNat?, if_pos (by simpa [Nat.isValidChar] using hc), Char.ofNat_toNat]
    -- A character is no surrogate, so that its unit is no first half.
    have hhigh : isHigh c.toNat = false := by
      simp only [isHigh, Bool.and_eq_false_iff, decide_eq_false_iff_not]
      omega
    rw [readString_unitEscape hlt hvalid, hhigh]
    rfl
  · next hge => exact absurd (Nat.not_lt.mp hge) hle

/-- No character starts with the escape of a second half. -/
theorem lowAhead?_escape (c : Char) (s : List Char) : lowAhead? (escape c ++ s) = none := by
  have hc : c.toNat < 0xD800 ∨ 0xDFFF < c.toNat ∧ c.toNat < 0x110000 := c.valid
  have hletter {e : Char} (h : e ≠ 'u') (r : List Char) : lowAhead? ('\\' :: e :: r) = none := by
    rw [lowAhead?]
    intro _ _ _ _ _ he
    exact h (List.cons.inj (List.cons.inj he).2).1
  rw [escape]
  iterate 7
    split
    · exact hletter (by decide) s
  split
  · next hslash _ _ _ _ _ _ =>
    rw [List.singleton_append, lowAhead?]
    intro _ _ _ _ _ he
    exact hslash (List.cons.inj he).1
  split
  · next hlt =>
    rw [lowAhead?_unitEscape hlt, if_neg (by omega)]
  · rw [List.append_assoc, lowAhead?_unitEscape (by omega), if_neg (by omega)]

/-- The second half that is ahead of a text in its quoted form. -/
theorem lowAhead?_quoted (t : Text) (rest : List Char) :
    lowAhead? (t.flatMap escapePoint ++ '"' :: rest) =
      match t with
      | .surrogate k :: r =>
        if 0x400 ≤ k.val then some (0xD800 + k.val, r.flatMap escapePoint ++ '"' :: rest) else none
      | _ => none := by
  cases t with
  | nil =>
    cases rest <;> rfl
  | cons c r =>
    rw [List.flatMap_cons, List.append_assoc]
    cases c with
    | char c => exact lowAhead?_escape c _
    | surrogate k =>
      have hk := k.isLt
      have hp : escapePoint (.surrogate k) = unitEscape (0xD800 + k.val) := rfl
      rw [hp, lowAhead?_unitEscape (by omega)]
      dsimp only
      by_cases hlow : 0x400 ≤ k.val
      · rw [if_pos hlow, if_pos (by omega)]
      · rw [if_neg hlow, if_neg (by omega)]

theorem ofHalves?_eq_some {c d e : CodePoint} (h : CodePoint.ofHalves? c d = some e) :
    ∃ high low, c = .surrogate high ∧ d = .surrogate low ∧ high.val < 0x400 ∧ 0x400 ≤ low.val ∧
      e = ofUnits (0xD800 + high.val) (0xD800 + low.val) := by
  cases c with
  | char c => cases h
  | surrogate high =>
    cases d with
    | char d => cases h
    | surrogate low =>
      rw [CodePoint.ofHalves?] at h
      split at h
      · next hr =>
        have hsum : 0x10000 + high.val * 0x400 + (low.val - 0x400) =
            0x10000 + (0xD800 + high.val - 0xD800) * 0x400 + (0xD800 + low.val - 0xDC00) := by omega
        refine ⟨high, low, rfl, rfl, hr.1, hr.2, ?_⟩
        rw [ofUnits, ← hsum]
        exact (Option.some.inj h).symm
      · cases h

/-- A code point comes back by itself where what follows is not its second half. -/
theorem readString_escapePoint {c : CodePoint} {t : Text}
    (h : ∀ d r, t = d :: r → CodePoint.ofHalves? c d = none) (rest : List Char) :
    readString (escapePoint c ++ (t.flatMap escapePoint ++ '"' :: rest)) =
      (readString (t.flatMap escapePoint ++ '"' :: rest)).map (inFront c) := by
  cases c with
  | char c => exact readString_escape c _
  | surrogate k =>
    have hk := k.isLt
    -- A second half ahead of a first one would be the next code point of the text.
    have hnone : (if isHigh (0xD800 + k.val) then
        lowAhead? (t.flatMap escapePoint ++ '"' :: rest) else none) = none := by
      rw [isHigh_surrogate, lowAhead?_quoted]
      split
      · next hhigh =>
        split
        · next low r =>
          rw [if_neg]
          intro hlow
          have hpair := h _ r rfl
          rw [CodePoint.ofHalves?, if_pos ⟨of_decide_eq_true hhigh, hlow⟩] at hpair
          cases hpair
        · rfl
      · rfl
    have hp : escapePoint (.surrogate k) = unitEscape (0xD800 + k.val) := rfl
    rw [hp, readString_unitEscape (by omega) (ofNat?_surrogate k), hnone]

/-- A quoted text comes back with its halves paired, and what follows it is left. -/
theorem readString_quoted (t : Text) (rest : List Char) :
    readString (t.flatMap escapePoint ++ '"' :: rest) = some (t.paired, rest) := by
  fun_induction Text.paired t with
  | case1 c d r e h ih =>
    -- The two escapes are read in one step, so the induction goes on behind both.
    obtain ⟨high, low, rfl, rfl, hhigh, hlow, rfl⟩ := ofHalves?_eq_some h
    have hp (k : Fin 0x800) : escapePoint (.surrogate k) = unitEscape (0xD800 + k.val) := rfl
    have hl := low.isLt
    rw [List.flatMap_cons, List.flatMap_cons, hp, hp, List.append_assoc, List.append_assoc,
      readString_unitEscape (by omega) (ofNat?_surrogate high), isHigh_surrogate,
      decide_eq_true hhigh, if_pos rfl, lowAhead?_unitEscape (by omega), if_pos (by omega)]
    dsimp only
    rw [ih]
    rfl
  | case2 c d r h ih =>
    rw [List.flatMap_cons, List.append_assoc, readString_escapePoint, ih]
    · rfl
    · rintro _ _ ⟨rfl, rfl⟩
      exact h
  | case3 t ht =>
    match t, ht with
    | [], _ => rfl
    | [c], _ =>
      rw [List.flatMap_cons, List.append_assoc, readString_escapePoint (by simp)]
      rfl
    | c :: d :: r, ht => exact absurd rfl (ht c d r)

/-- The escapes of two halves are those of the character. -/
theorem escapePoint_of_ofHalves? {c d e : CodePoint} (h : CodePoint.ofHalves? c d = some e) :
    escapePoint e = escapePoint c ++ escapePoint d := by
  obtain ⟨high, low, rfl, rfl, hhigh, hlow, rfl⟩ := ofHalves?_eq_some h
  have hl := low.isLt
  let n := 0x10000 + (0xD800 + high.val - 0xD800) * 0x400 + (0xD800 + low.val - 0xDC00)
  have hvalid : n.isValidChar := by
    rw [Nat.isValidChar]
    omega
  have hnat : (Char.ofNat n).toNat = n := by
    rw [Char.ofNat, dif_pos hvalid]
    rfl
  have hdiv : 0xD800 + (n - 0x10000) / 0x400 = 0xD800 + high.val := by omega
  have hmod : 0xDC00 + (n - 0x10000) % 0x400 = 0xD800 + low.val := by omega
  have he := escape_of_le (c := Char.ofNat n) (by omega)
  rw [hnat, hdiv, hmod] at he
  exact he

/-- The escapes of a text and of its paired form are the same. -/
theorem flatMap_escapePoint_paired (t : Text) :
    t.paired.flatMap escapePoint = t.flatMap escapePoint := by
  fun_induction Text.paired t with
  | case1 c d r e h ih =>
    rw [List.flatMap_cons, ih, escapePoint_of_ofHalves? h, List.flatMap_cons, List.flatMap_cons,
      List.append_assoc]
  | case2 c d r h ih => rw [List.flatMap_cons, ih, ← List.flatMap_cons]
  | case3 t => rfl

end Json

end ClientBuilder
