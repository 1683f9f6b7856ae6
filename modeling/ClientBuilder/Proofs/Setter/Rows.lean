import ClientBuilder.Proofs.Setter.Tokens
import Mathlib.Data.List.Chain

namespace ClientBuilder.Setter

namespace Token

def last (t : Token) : Char :=
  t.chars.getLast t.chars_ne_nil

theorem chars_eq_concat (t : Token) : t.chars = t.chars.dropLast ++ [t.last] :=
  (List.dropLast_append_getLast t.chars_ne_nil).symm

theorem isAlnum_last (t : Token) : isAlnum t.last = true :=
  isAlnum_of_mem (List.getLast_mem t.chars_ne_nil)

/-- A token that ends in a capital is all capitals. -/
theorem capitals_of_isUpper_last {t : Token} (h : isUpper t.last = true) :
    t.capitals = true ∧ t.digits = [] := by
  have hbody : t.last ∈ t.body := by
    have hl : t.last = t.body.getLast (List.cons_ne_nil _ _) := List.getLast_cons _
    rw [hl]
    exact List.getLast_mem _
  constructor
  · by_contra hcap
    rcases class_of_mem_body hbody with hd | hl
    · rw [isUpper_eq_false_of_isDigit hd] at h
      cases h
    · rw [if_neg hcap] at hl
      rw [isUpper_eq_false_of_isLower hl] at h
      cases h
  · by_contra hne
    have hl : t.last = t.digits.getLast hne :=
      List.getLast_append_of_ne_nil (l := t.head :: t.second :: t.more) (List.cons_ne_nil _ _) hne
    have hd := t.digits_class _ (List.getLast_mem hne)
    rw [← hl] at hd
    rw [isUpper_eq_false_of_isDigit hd] at h
    cases h

/-- A token can stand right behind another one: it starts with a capital, and with that one only
where the token before ends in a capital. -/
def Abuts (t u : Token) : Prop :=
  isUpper u.head = true ∧ (isUpper t.last = true → u.capitals = false)

end Token

/-- Tokens one after another, with a blank behind those that the test holds of and with something
behind the last one. -/
def row (gap : Token → Bool) (trail : List Char) : Token → List Token → List Char
  | t, [] => t.chars ++ trail
  | t, u :: r => t.chars ++ ((if gap t then [' '] else []) ++ row gap trail u r)

def Abutting (gap : Token → Bool) (tokens : List Token) : Prop :=
  tokens.IsChain fun t u => gap t = false → t.Abuts u

theorem row_eq_cons (gap : Token → Bool) (trail : List Char) (t : Token) (r : List Token) :
    ∃ s, row gap trail t r = t.head :: t.second :: s := by
  cases r with
  | nil => exact ⟨_, rfl⟩
  | cons u r => exact ⟨_, rfl⟩

structure BreaksBehind (test : Char → List Char → Bool) (cls : Char → Bool) : Prop where
  inside : ∀ {t : Token} {a b rest : List Char} {c d : Char}, t.chars = a ++ c :: d :: b →
    (∀ e s, rest = e :: s → isLower e = false) → test c (d :: (b ++ rest)) = false
  blank : ∀ c s, test c (' ' :: s) = false
  stop : ∀ c, test c [] = false
  from_blank : ∀ s, test ' ' s = false
  between : ∀ {t u : Token} s, t.Abuts u → test t.last (u.head :: u.second :: s) = cls t.last

theorem isHump_breaksBehind : BreaksBehind isHump isLower where
  inside {t a b rest c d} h _ := by
    have hcd : isLower c = true → isUpper d = false := by
      intro hc
      rcases Token.neighbours h with hd | ⟨_, hd⟩
      · exact isUpper_eq_false_of_isDigit hd
      by_cases hcap : t.capitals = true
      · rw [if_pos hcap] at hd
        rw [isLower_eq_false_of_isUpper hd.1] at hc
        cases hc
      · rw [if_neg hcap] at hd
        exact isUpper_eq_false_of_isLower hd
    cases hr : b ++ rest with
    | nil => rfl
    | cons e s =>
      rw [isHump]
      cases hc : isLower c with
      | false => rfl
      | true => rw [hcd hc]; rfl
  blank c s := by
    cases s with
    | nil => rfl
    | cons e s => rw [isHump, show isUpper ' ' = false by decide, Bool.and_false]; rfl
  stop _ := rfl
  from_blank s := by
    rcases s with _ | ⟨d, _ | ⟨e, s⟩⟩ <;> rfl
  between {t u} s h := by
    have hs : isAlnum u.second = true :=
      Token.isAlnum_of_mem (t := u) (by simp [Token.chars, Token.body])
    rw [isHump, h.1, hs, Bool.and_true, Bool.and_true]

/-- Acronyms end where the next token starts with a capital and goes on small. -/
theorem isAcronymEnd_breaksBehind : BreaksBehind isAcronymEnd isUpper where
  inside {t a b rest c d} h hrest := by
    -- In a token of capitals no small letter stands, and behind it none either.
    have hcd : isUpper c = true → isUpper d = true →
        ∀ e s, b ++ rest = e :: s → isLower e = false := by
      intro hc hd e s hs
      rcases Token.neighbours h with hdig | ⟨_, hcl⟩
      · rw [isUpper_eq_false_of_isDigit hdig] at hd
        cases hd
      by_cases hcap : t.capitals = true
      · cases b with
        | nil => exact hrest e s hs
        | cons x b =>
          obtain ⟨rfl, _⟩ := List.cons.inj hs
          have hxm : x ∈ t.chars := by
            rw [h]
            simp
          have hx := Token.isAlnum_of_mem hxm
          rw [isAlnum, Bool.or_eq_true] at hx
          rcases hx with hl | hdig
          · exact isLower_eq_false_of_isUpper (Token.isUpper_of_isLetter hxm hl hcap)
          · exact isLower_eq_false_of_isDigit hdig
      · rw [if_neg hcap] at hcl
        rw [isUpper_eq_false_of_isLower hcl] at hd
        cases hd
    cases hr : b ++ rest with
    | nil => rfl
    | cons e s =>
      rw [isAcronymEnd]
      cases hc : isUpper c with
      | false => rfl
      | true =>
        cases hd : isUpper d with
        | false => rfl
        | true => rw [hcd hc hd e s hr]; rfl
  blank c s := by
    cases s with
    | nil => rfl
    | cons e s => rw [isAcronymEnd, show isUpper ' ' = false by decide, Bool.and_false]; rfl
  stop _ := rfl
  from_blank s := by
    rcases s with _ | ⟨d, _ | ⟨e, s⟩⟩ <;> rfl
  between {t u} s h := by
    rw [isAcronymEnd, h.1, Bool.and_true]
    cases hl : isUpper t.last with
    | false => rfl
    | true =>
      have hs := u.letters_class u.second List.mem_cons_self
      rw [h.2 hl] at hs
      rw [show isLower u.second = true from hs]
      rfl

theorem isDigitEnd_breaksBehind : BreaksBehind isDigitEnd isDigit where
  inside {t a b rest c d} h _ := by
    rw [isDigitEnd]
    rcases Token.neighbours h with hd | ⟨hc, _⟩
    · cases hl : isLetter d with
      | false => exact Bool.and_false _
      | true =>
        rw [isDigit_eq_false_of_isLetter hl] at hd
        cases hd
    · rw [isDigit_eq_false_of_isLetter hc]
      rfl
  blank c s := by
    rw [isDigitEnd, show isLetter ' ' = false by decide, Bool.and_false]
  stop _ := rfl
  from_blank s := by
    cases s <;> rfl
  between {t u} s h := by
    rw [isDigitEnd, u.isLetter_head, Bool.and_true]

def IsTrail (trail : List Char) : Prop :=
  trail = [] ∨ trail = [' ']

/-- A rule goes through a token and may break behind it. -/
theorem BreaksBehind.token {test : Char → List Char → Bool} {cls : Char → Bool}
    (h : BreaksBehind test cls) (t : Token) {rest : List Char}
    (hrest : ∀ e s, rest = e :: s → isLower e = false) :
    breakAfter test (t.chars ++ rest) =
      t.chars ++ ((if test t.last rest then [' '] else []) ++ breakAfter test rest) := by
  -- Each character but the last one has another of the token behind it, where no rule breaks.
  have hin : ∀ a c b, t.chars.dropLast = a ++ c :: b → test c (b ++ t.last :: rest) = false := by
    intro a c b hs
    have hc := t.chars_eq_concat
    rw [hs] at hc
    cases b with
    | nil =>
      rw [List.append_assoc] at hc
      exact h.inside hc hrest
    | cons d b =>
      rw [List.append_assoc] at hc
      have hd := h.inside hc hrest
      simpa using hd
  rw [t.chars_eq_concat, List.append_assoc, List.append_assoc, List.singleton_append,
    breakAfter_append hin, breakAfter]
  cases test t.last rest <;> rfl

theorem BreaksBehind.trail {test : Char → List Char → Bool} {cls : Char → Bool}
    (h : BreaksBehind test cls) {trail : List Char} (ht : IsTrail trail) (c : Char) :
    test c trail = false ∧ breakAfter test trail = trail := by
  rcases ht with rfl | rfl
  · exact ⟨h.stop c, rfl⟩
  · refine ⟨h.blank c [], ?_⟩
    rw [breakAfter, h.stop]
    rfl

/-- A rule puts a blank behind each token of a row that ends in its class, up to the last one. -/
theorem BreaksBehind.row {test : Char → List Char → Bool} {cls : Char → Bool}
    (h : BreaksBehind test cls) {gap : Token → Bool} {trail : List Char} (ht : IsTrail trail)
    {t : Token} {r : List Token} (hr : Abutting gap (t :: r)) :
    breakAfter test (row gap trail t r) = Setter.row (fun u => gap u || cls u.last) trail t r := by
  induction r generalizing t with
  | nil =>
    have hrest : ∀ e s, trail = e :: s → isLower e = false := by
      rintro e s rfl
      rcases ht with hn | hb
      · cases hn
      · obtain ⟨rfl, _⟩ := List.cons.inj hb
        decide
    obtain ⟨hl, hb⟩ := h.trail ht t.last
    rw [Setter.row, h.token t hrest, hl, hb]
    rfl
  | cons u r ih =>
    -- What the rule does behind `t` depends on whether a blank is there already.
    obtain ⟨htu, hur⟩ := List.isChain_cons_cons.mp hr
    obtain ⟨s, hs⟩ := row_eq_cons gap trail u r
    rw [Setter.row, Setter.row]
    cases hg : gap t with
    | true =>
      have hrest : ∀ e s', ' ' :: Setter.row gap trail u r = e :: s' → isLower e = false := by
        intro e s' he
        obtain ⟨rfl, _⟩ := List.cons.inj he
        decide
      simp only [if_true, Bool.true_or, List.singleton_append]
      rw [h.token t hrest, h.blank, breakAfter, h.from_blank, ih hur]
      rfl
    | false =>
      have hab := htu hg
      have hrest : ∀ e s', Setter.row gap trail u r = e :: s' → isLower e = false := by
        intro e s' he
        rw [hs] at he
        obtain ⟨rfl, _⟩ := List.cons.inj he
        exact isLower_eq_false_of_isUpper hab.1
      have hlast : test t.last (Setter.row gap trail u r) = cls t.last := by
        rw [hs]
        exact h.between s hab
      simp only [Bool.false_eq_true, if_false, Bool.false_or, List.nil_append]
      rw [h.token t hrest, hlast, ih hur]

/-- Where a place already has a blank or can do without one, more blanks change nothing. -/
theorem Abutting.or {gap : Token → Bool} {tokens : List Token} (h : Abutting gap tokens)
    (more : Token → Bool) : Abutting (fun u => gap u || more u) tokens := by
  refine List.IsChain.imp ?_ h
  intro t u htu hg
  exact htu (Bool.or_eq_false_iff.mp hg).1

structure PassesTokens (mark : Char) (inner : Char → Bool) : Prop where
  mark_ne_blank : mark ≠ ' '
  before : ∀ {t : Token} {a b : List Char} {e : Char}, t.chars = a ++ mark :: e :: b →
    isDigit e = true → ∃ p, a.getLast? = some p ∧ inner p = false

theorem lowerVersion_passesTokens : PassesTokens 'v' fun c => !isLower c where
  mark_ne_blank := by decide
  before h he := by
    obtain ⟨p, hp, hl⟩ := Token.isLower_before_version h he
    exact ⟨p, hp, by rw [hl]; rfl⟩

theorem upperVersion_passesTokens : PassesTokens 'V' fun c => !isUpper c where
  mark_ne_blank := by decide
  before h he := by
    obtain ⟨p, hp, hu⟩ := Token.isUpper_before_version h he
    exact ⟨p, hp, by rw [hu]; rfl⟩

theorem PassesTokens.blank {mark : Char} {inner : Char → Bool} (h : PassesTokens mark inner)
    (before : Nat) (s : List Char) :
    ∃ k, setVersionsApart mark inner before false (' ' :: s) =
      ' ' :: setVersionsApart mark inner k false s := by
  have hm : ¬ (' ' = mark ∧ 2 ≤ before ∧ startsWithDigit s = true) :=
    fun hc => h.mark_ne_blank hc.1.symm
  refine ⟨if inner ' ' = true then before + 1 else 0, ?_⟩
  rw [setVersionsApart]
  simp only [Bool.false_eq_true, if_false, if_neg hm]

theorem PassesTokens.token {mark : Char} {inner : Char → Bool} (h : PassesTokens mark inner)
    (before : Nat) (t : Token) {rest : List Char} (hrest : startsWithDigit rest = false) :
    ∃ k, setVersionsApart mark inner before false (t.chars ++ rest) =
      t.chars ++ setVersionsApart mark inner k false rest := by
  refine setVersionsApart_append [] ?_ (by simp)
  rintro a c b hs rfl hd
  cases b with
  | nil =>
    rw [List.nil_append, hrest] at hd
    cases hd
  | cons e b => exact h.before hs hd

/-- No version is set apart in a row of tokens. -/
theorem PassesTokens.row {mark : Char} {inner : Char → Bool} (h : PassesTokens mark inner)
    (gap : Token → Bool) {trail : List Char} (ht : IsTrail trail) (before : Nat) (t : Token)
    (r : List Token) :
    setVersionsApart mark inner before false (row gap trail t r) = Setter.row gap trail t r := by
  -- The count before a token is anything, since only what stands inside of it matters.
  induction r generalizing before t with
  | nil =>
    have hrest : startsWithDigit trail = false := by
      rcases ht with rfl | rfl <;> rfl
    obtain ⟨k, hk⟩ := h.token before t hrest
    have htrail : setVersionsApart mark inner k false trail = trail := by
      rcases ht with rfl | rfl
      · rfl
      · obtain ⟨j, hj⟩ := h.blank k []
        rw [hj]
        rfl
    rw [Setter.row, hk, htrail]
  | cons u r ih =>
    obtain ⟨s, hs⟩ := row_eq_cons gap trail u r
    rw [Setter.row]
    cases hg : gap t with
    | true =>
      have hrest : startsWithDigit (' ' :: Setter.row gap trail u r) = false := rfl
      obtain ⟨k, hk⟩ := h.token before t hrest
      obtain ⟨j, hj⟩ := h.blank k (Setter.row gap trail u r)
      simp only [if_true, List.singleton_append]
      rw [hk, hj, ih]
    | false =>
      have hrest : startsWithDigit (Setter.row gap trail u r) = false := by
        rw [hs]
        exact isDigit_eq_false_of_isLetter u.isLetter_head
      obtain ⟨k, hk⟩ := h.token before t hrest
      simp only [Bool.false_eq_true, if_false, List.nil_append]
      rw [hk, ih]

/-- A row with all its blanks has the tokens for its pieces. -/
theorem pieces_row {trail : List Char} (ht : IsTrail trail) (t : Token) (r : List Token) :
    pieces (row (fun _ => true) trail t r) = (t :: r).map Token.chars := by
  have hb (u : Token) : ∀ c ∈ u.chars, c ≠ ' ' := fun c hc =>
    ne_blank_of_isAlnum (Token.isAlnum_of_mem hc)
  induction r generalizing t with
  | nil =>
    rcases ht with rfl | rfl
    · rw [Setter.row, List.append_nil]
      exact pieces_of_no_blank (hb t) t.chars_ne_nil
    · exact pieces_append_blank (hb t) t.chars_ne_nil []
  | cons u r ih =>
    rw [Setter.row, if_pos rfl, List.singleton_append,
      pieces_append_blank (hb t) t.chars_ne_nil, ih]
    rfl

/-- A rule for versions leaves a whole row as it is. -/
theorem PassesTokens.lead {mark : Char} {inner : Char → Bool} (h : PassesTokens mark inner)
    (gap : Token → Bool) {lead trail : List Char} (hl : IsTrail lead) (ht : IsTrail trail)
    (t : Token) (r : List Token) :
    setVersionsApart mark inner 0 false (lead ++ Setter.row gap trail t r) =
      lead ++ Setter.row gap trail t r := by
  rcases hl with rfl | rfl
  · exact h.row gap ht 0 t r
  · obtain ⟨k, hk⟩ := h.blank 0 (Setter.row gap trail t r)
    rw [List.singleton_append, hk, h.row gap ht k t r]

/-- A rule that breaks behind tokens does so in a whole row, whatever leads to it. -/
theorem BreaksBehind.lead {test : Char → List Char → Bool} {cls : Char → Bool}
    (h : BreaksBehind test cls) {gap : Token → Bool} {lead trail : List Char} (hl : IsTrail lead)
    (ht : IsTrail trail) {t : Token} {r : List Token} (hr : Abutting gap (t :: r)) :
    breakAfter test (lead ++ Setter.row gap trail t r) =
      lead ++ Setter.row (fun u => gap u || cls u.last) trail t r := by
  rw [← h.row ht hr]
  rcases hl with rfl | rfl
  · rfl
  · rw [List.singleton_append, breakAfter, h.from_blank]
    rfl

/-- A name that comes to a row of tokens splits into these, whatever blanks the row has. -/
theorem words_of_row {name lead trail : List Char} {gap : Token → Bool} {t : Token}
    {r : List Token} (hl : IsTrail lead) (ht : IsTrail trail) (hr : Abutting gap (t :: r))
    (h : blankRuns false name = lead ++ row gap trail t r) :
    words name = (t :: r).map Token.chars := by
  have hlower := hr.or fun u => isLower u.last
  have hupper := hlower.or fun u => isUpper u.last
  -- Every token ends in one of the three classes, so in the end all blanks are there.
  have hall : (fun u : Token => gap u || isLower u.last || isUpper u.last || isDigit u.last) =
      fun _ => true := by
    funext u
    have hu := u.isAlnum_last
    rw [isAlnum, isLetter] at hu
    rw [Bool.or_assoc, Bool.or_assoc, ← Bool.or_assoc (isLower u.last), hu, Bool.or_true]
  have hspaced : spaced name = lead ++ row (fun _ => true) trail t r := by
    rw [spaced, h, lowerVersion_passesTokens.lead gap hl ht,
      upperVersion_passesTokens.lead gap hl ht,
      isHump_breaksBehind.lead hl ht hr, isAcronymEnd_breaksBehind.lead hl ht hlower,
      isDigitEnd_breaksBehind.lead hl ht hupper, hall]
  rw [words, hspaced]
  rcases hl with rfl | rfl
  · exact pieces_row ht t r
  · rw [List.singleton_append, pieces_blank, pieces_row ht t r]

end ClientBuilder.Setter
