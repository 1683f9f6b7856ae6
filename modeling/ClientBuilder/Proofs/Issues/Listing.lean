import ClientBuilder.Proofs.Issues.Clean

/-!
The errors of a model one by one. Colliding setters come first, each once and with all of its names,
then the names that both groups declare, both in the order of code points; then what is wrong with
the setter of a name, once for each name, and the declarations without a type. How declarations are
ordered and grouped changes no more than the order of the last two.
-/

namespace ClientBuilder

namespace CodePoint

theorem toNat_injective {c d : CodePoint} (h : c.toNat = d.toNat) : c = d := by
  cases c with
  | char c =>
    cases d with
    | char d => exact congrArg char (Char.toNat_inj.mp h)
    | surrogate s =>
      have hs : c.toNat = 0xD800 + s.val := h
      have hc : c.toNat < 0xD800 ∨ 0xDFFF < c.toNat ∧ c.toNat < 0x110000 := c.valid
      omega
  | surrogate s =>
    cases d with
    | char d =>
      have hs : 0xD800 + s.val = d.toNat := h
      have hd : d.toNat < 0xD800 ∨ 0xDFFF < d.toNat ∧ d.toNat < 0x110000 := d.valid
      omega
    | surrogate s' =>
      have hs : 0xD800 + s.val = 0xD800 + s'.val := h
      exact congrArg surrogate (Fin.ext (Nat.add_left_cancel hs))

end CodePoint

namespace Text

theorem le_cons_cons {c d : CodePoint} {s t : Text} :
    le (c :: s) (d :: t) = true ↔ c.toNat < d.toNat ∨ c = d ∧ le s t = true := by
  rw [le, Bool.or_eq_true, Bool.and_eq_true, decide_eq_true_eq, decide_eq_true_eq]
  exact or_congr_right (and_congr_left' ⟨CodePoint.toNat_injective, congrArg CodePoint.toNat⟩)

/-- Any two texts are in order one way or the other. -/
theorem le_total (s t : Text) : (le s t || le t s) = true := by
  rw [Bool.or_eq_true]
  induction s generalizing t with
  | nil => exact Or.inl rfl
  | cons c s ih =>
    cases t with
    | nil => exact Or.inr rfl
    | cons d t =>
      rw [le_cons_cons, le_cons_cons]
      rcases Nat.lt_trichotomy c.toNat d.toNat with h | h | h
      · exact Or.inl (Or.inl h)
      · have hc := CodePoint.toNat_injective h
        exact (ih t).imp (fun hs => Or.inr ⟨hc, hs⟩) fun ht => Or.inr ⟨hc.symm, ht⟩
      · exact Or.inr (Or.inl h)

theorem le_trans {s t u : Text} (hst : le s t = true) (htu : le t u = true) : le s u = true := by
  induction s generalizing t u with
  | nil => rfl
  | cons c s ih =>
    cases t with
    | nil => cases hst
    | cons d t =>
      cases u with
      | nil => cases htu
      | cons e u =>
        rw [le_cons_cons] at hst htu ⊢
        rcases hst with hcd | ⟨rfl, hs⟩
        · rcases htu with hde | ⟨rfl, -⟩
          · exact Or.inl (Nat.lt_trans hcd hde)
          · exact Or.inl hcd
        · rcases htu with hde | ⟨rfl, ht⟩
          · exact Or.inl hde
          · exact Or.inr ⟨rfl, ih hs ht⟩

/-- Texts that are in order both ways are the same. -/
theorem le_antisymm {s t : Text} (hst : le s t = true) (hts : le t s = true) : s = t := by
  induction s generalizing t with
  | nil =>
    cases t with
    | nil => rfl
    | cons d t => cases hts
  | cons c s ih =>
    cases t with
    | nil => cases hst
    | cons d t =>
      rw [le_cons_cons] at hst hts
      rcases hst with hcd | ⟨rfl, hs⟩
      · rcases hts with hdc | ⟨rfl, -⟩
        · exact absurd hdc (Nat.lt_asymm hcd)
        · exact absurd hcd (Nat.lt_irrefl _)
      · rcases hts with hcc | ⟨-, ht⟩
        · exact absurd hcc (Nat.lt_irrefl _)
        · rw [ih hs ht]

/-- Texts stand in the order of their code points, each of them once. -/
def InOrder (texts : List Text) : Prop :=
  texts.Pairwise fun s t => le s t = true ∧ s ≠ t

/-- Texts in order are told by which ones they are. -/
theorem InOrder.eq_of_mem_iff {texts others : List Text} (h : InOrder texts) (h' : InOrder others)
    (hm : ∀ s, s ∈ texts ↔ s ∈ others) : texts = others := by
  have hperm : texts.Perm others :=
    (List.perm_ext_iff_of_nodup (h.imp fun hs => hs.2) (h'.imp fun hs => hs.2)).mpr hm
  exact hperm.eq_of_pairwise (fun s t _ _ hst hts => le_antisymm hst.1 hts.1) h h'

theorem inOrder_sortTexts {texts : List Text} (h : texts.Nodup) : InOrder (sortTexts texts) := by
  have hle : (sortTexts texts).Pairwise fun s t => le s t = true :=
    List.pairwise_mergeSort (fun s t u (hst : le s t = true) (htu : le t u = true) =>
      le_trans hst htu) le_total texts
  exact hle.and ((List.mergeSort_perm texts le).nodup_iff.mpr h)

theorem sortTexts_of_inOrder {texts : List Text} (h : InOrder texts) : sortTexts texts = texts :=
  List.mergeSort_of_pairwise (h.imp fun hs => hs.1)

theorem mem_sortTexts {s : Text} {texts : List Text} : s ∈ sortTexts texts ↔ s ∈ texts :=
  (List.mergeSort_perm texts le).mem_iff

end Text

theorem nodup_eraseDups (texts : List Text) : texts.eraseDups.Nodup := by
  induction hn : texts.length using Nat.strongRecOn generalizing texts with
  | ind n ih =>
    cases texts with
    | nil => exact List.nodup_nil
    | cons s r =>
      have hlt : (r.filter fun t => !t == s).length < n := by
        rw [← hn, List.length_cons]
        exact Nat.lt_succ_of_le (List.length_filter_le _ r)
      rw [List.eraseDups_cons, List.nodup_cons, List.mem_eraseDups, List.mem_filter]
      exact ⟨by simp, ih _ hlt _ rfl⟩

/-- A list without repeats is longer than one iff it holds two different things. -/
theorem one_lt_length_iff_of_nodup {α : Type} {l : List α} (h : l.Nodup) :
    1 < l.length ↔ ∃ a ∈ l, ∃ b ∈ l, a ≠ b := by
  match l, h with
  | [], _ => simp
  | [a], _ => simp
  | a :: b :: r, h =>
    have hne : a ≠ b := fun he => (List.nodup_cons.mp h).1 (he ▸ List.mem_cons_self)
    simp only [List.length_cons, Nat.lt_add_left_iff_pos, Nat.zero_lt_succ, true_iff]
    exact ⟨a, List.mem_cons_self, b, List.mem_cons_of_mem _ List.mem_cons_self, hne⟩

namespace Capability

def Declares (m : Capability) (name : Text) : Prop :=
  ∃ p ∈ m.declarations, p.1 = name

def collidingSetters (m : Capability) : List Text :=
  (sortTexts (m.setters.map (·.2)).eraseDups).filter fun s => 1 < (namesOf m.setters s).length

theorem nodup_paramNames (m : Capability) : m.paramNames.Nodup :=
  nodup_eraseDups _

theorem namesOf_setters (m : Capability) (s : Text) :
    namesOf m.setters s = m.paramNames.filter fun n => Setter.setterName n = s := by
  rw [namesOf, setters, List.filter_map, List.map_map]
  exact List.map_id _

theorem nodup_namesOf (m : Capability) (s : Text) : (namesOf m.setters s).Nodup := by
  rw [namesOf_setters]
  exact m.nodup_paramNames.filter _

theorem mem_namesOf_iff (m : Capability) (s n : Text) :
    n ∈ namesOf m.setters s ↔ m.Declares n ∧ Setter.setterName n = s := by
  rw [namesOf_setters, List.mem_filter, mem_paramNames_iff, decide_eq_true_eq, Declares]

theorem setterCollisions_eq (m : Capability) :
    m.setterCollisions =
      m.collidingSetters.map fun s => .sameSetter (sortTexts (namesOf m.setters s)) s := by
  simp only [setterCollisions, collidingSetters, List.filter_map, List.map_map]
  rfl

theorem inOrder_collidingSetters (m : Capability) : Text.InOrder m.collidingSetters :=
  (Text.inOrder_sortTexts (nodup_eraseDups _)).filter _

/-- A setter collides iff two different names have it. -/
theorem mem_collidingSetters_iff (m : Capability) (s : Text) :
    s ∈ m.collidingSetters ↔ ∃ n k, n ≠ k ∧ (m.Declares n ∧ Setter.setterName n = s) ∧
      m.Declares k ∧ Setter.setterName k = s := by
  have hname : s ∈ m.setters.map (·.2) ↔ ∃ n, m.Declares n ∧ Setter.setterName n = s := by
    simp only [setters, List.map_map, List.mem_map, mem_paramNames_iff, Declares,
      Function.comp_apply]
  rw [collidingSetters, List.mem_filter, Text.mem_sortTexts, List.mem_eraseDups, hname,
    decide_eq_true_eq, one_lt_length_iff_of_nodup (m.nodup_namesOf s)]
  simp only [mem_namesOf_iff]
  constructor
  · rintro ⟨-, n, hn, k, hk, hne⟩
    exact ⟨n, k, hne, hn, hk⟩
  · rintro ⟨n, k, hne, hn, hk⟩
    exact ⟨⟨n, hn⟩, n, hn, k, hk, hne⟩

theorem inOrder_sharedNames (m : Capability) : Text.InOrder m.sharedNames :=
  Text.inOrder_sortTexts (m.clientContextParams.nodup_keys.filter _)

theorem mem_sharedNames_iff (m : Capability) (n : Text) :
    n ∈ m.sharedNames ↔
      n ∈ m.clientContextParams.keys ∧ n ∈ m.customClientContextParams.keys := by
  rw [sharedNames, Text.mem_sortTexts, List.mem_filter, OrderedMap.contains,
    List.contains_iff_mem]

def wrongSetters (m : Capability) : List (Text × Text) :=
  m.setters.filter fun p => reservedNames.contains p.2 || p.2 = []

theorem nodup_map_fst_wrongSetters (m : Capability) : (m.wrongSetters.map (·.1)).Nodup := by
  have hnames : m.setters.map (·.1) = m.paramNames := by
    rw [setters, List.map_map]
    exact List.map_id _
  have hsub : (m.wrongSetters.map (·.1)).Sublist m.paramNames :=
    hnames ▸ List.filter_sublist.map _
  exact m.nodup_paramNames.sublist hsub

/-- Which names are listed for their setters. -/
theorem mem_wrongSetters_iff (m : Capability) (n s : Text) :
    (n, s) ∈ m.wrongSetters ↔
      m.Declares n ∧ Setter.setterName n = s ∧ (s ∈ reservedNames ∨ s = []) := by
  have hpair : (n, s) ∈ m.setters ↔ m.Declares n ∧ Setter.setterName n = s := by
    simp only [setters, List.mem_map, mem_paramNames_iff, Declares, Prod.mk.injEq]
    constructor
    · rintro ⟨k, hk, rfl, rfl⟩
      exact ⟨hk, rfl⟩
    · rintro ⟨hn, rfl⟩
      exact ⟨n, hn, rfl, rfl⟩
  rw [wrongSetters, List.mem_filter, hpair, Bool.or_eq_true, List.contains_iff_mem,
    decide_eq_true_eq, and_assoc]

end Capability

/-- What the lines on the errors of a model are about, by their kinds. -/
structure ErrorRows where
  -- The setters that collide, behind the names that have them.
  collisions : List (List Text × Text)
  -- The names that both groups declare.
  shared : List Text
  -- The names with a setter that is reserved or empty, in front of that setter.
  setters : List (Text × Text)
  -- The names of the declarations without a type.
  untyped : List Text

namespace ErrorRows

def collisionLine (c : List Text × Text) : Text :=
  "Context params " ++ (Text.ofString ", ").intercalate c.1 ++ " all map to setter '" ++ c.2 ++ "'"

def sharedLine (name : Text) : Text :=
  "Context param '" ++ name ++ "' is declared as both client and custom param"

def setterLine (p : Text × Text) : Text :=
  if p.2 = [] then "Context param '" ++ p.1 ++ "' does not yield a valid setter name"
  else "Context param '" ++ p.1 ++ "' collides with builder method '" ++ p.2 ++ "'"

def untypedLine (name : Text) : Text :=
  "Context param '" ++ name ++ "' has no type"

def lines (r : ErrorRows) : List Text :=
  r.collisions.map collisionLine ++ r.shared.map sharedLine ++ r.setters.map setterLine
    ++ r.untyped.map untypedLine

/-- The rows say of a model all that is wrong with it, and nothing twice. -/
structure Lists (r : ErrorRows) (m : Capability) : Prop where
  setter_order : Text.InOrder (r.collisions.map (·.2))
  setter_iff : ∀ s, s ∈ r.collisions.map (·.2) ↔ ∃ n k, n ≠ k ∧
    (m.Declares n ∧ Setter.setterName n = s) ∧ m.Declares k ∧ Setter.setterName k = s
  names_order : ∀ c ∈ r.collisions, Text.InOrder c.1
  names_iff : ∀ c ∈ r.collisions, ∀ n, n ∈ c.1 ↔ m.Declares n ∧ Setter.setterName n = c.2
  shared_order : Text.InOrder r.shared
  shared_iff : ∀ n, n ∈ r.shared ↔
    n ∈ m.clientContextParams.keys ∧ n ∈ m.customClientContextParams.keys
  setters_nodup : (r.setters.map (·.1)).Nodup
  setters_iff : ∀ n s, (n, s) ∈ r.setters ↔
    m.Declares n ∧ Setter.setterName n = s ∧ (s ∈ reservedNames ∨ s = [])
  untyped_eq : r.untyped = (m.declarations.filter fun p => Text.isBlank p.2.type).map (·.1)

end ErrorRows

namespace Capability

def errorRows (m : Capability) : ErrorRows where
  collisions := m.collidingSetters.map fun s => (sortTexts (namesOf m.setters s), s)
  shared := m.sharedNames
  setters := m.wrongSetters
  untyped := (m.declarations.filter fun p => Text.isBlank p.2.type).map (·.1)

/-- A setter is wrong by itself in one way at most, as no reserved name is empty. -/
theorem map_message_setterErrors (n : Text) :
    (setterErrors n).map ModelError.message =
      if reservedNames.contains (Setter.setterName n) || Setter.setterName n = [] then
        [ErrorRows.setterLine (n, Setter.setterName n)]
      else [] := by
  rw [setterErrors]
  by_cases he : Setter.setterName n = []
  · have hr : reservedNames.contains ([] : Text) = false := by decide
    simp only [he, hr, Bool.false_eq_true, if_false, if_true, List.nil_append, Bool.false_or,
      decide_true]
    rfl
  · cases hr : reservedNames.contains (Setter.setterName n) with
    | false => simp [he]
    | true =>
      simp only [if_true, if_neg he, List.append_nil, Bool.true_or, List.map_cons, List.map_nil,
        ErrorRows.setterLine]
      rfl

/-- The errors of a model, as lines, are its rows in their order. -/
theorem lines_errorRows (m : Capability) :
    m.errors.map ModelError.message = m.errorRows.lines := by
  have hcollisions : m.setterCollisions.map ModelError.message =
      m.errorRows.collisions.map ErrorRows.collisionLine := by
    rw [setterCollisions_eq, errorRows, List.map_map, List.map_map]
    rfl
  have hsetters : (m.paramNames.flatMap setterErrors).map ModelError.message =
      m.errorRows.setters.map ErrorRows.setterLine := by
    have hrow : m.errorRows.setters = m.wrongSetters := rfl
    rw [hrow, wrongSetters, setters]
    -- One name at a time, in the order in which the names are first declared.
    induction m.paramNames with
    | nil => rfl
    | cons n r ih =>
      rw [List.flatMap_cons, List.map_append, ih, map_message_setterErrors, List.map_cons,
        List.filter_cons]
      dsimp only
      split <;> rfl
  rw [errors, ErrorRows.lines, List.map_append, List.map_append, List.map_append, hcollisions,
    hsetters, List.map_map, List.map_map]
  simp only [errorRows, List.map_map]
  rfl

theorem map_snd_collisions (m : Capability) :
    m.errorRows.collisions.map (·.2) = m.collidingSetters := by
  simp only [errorRows, List.map_map]
  exact List.map_id _

/-- The rows of a model miss nothing and repeat nothing. -/
theorem lists_errorRows (m : Capability) : m.errorRows.Lists m where
  setter_order := m.map_snd_collisions ▸ m.inOrder_collidingSetters
  setter_iff s := m.map_snd_collisions ▸ m.mem_collidingSetters_iff s
  names_order c hc := by
    obtain ⟨s, -, rfl⟩ := List.mem_map.mp hc
    exact Text.inOrder_sortTexts (m.nodup_namesOf s)
  names_iff c hc n := by
    obtain ⟨s, -, rfl⟩ := List.mem_map.mp hc
    exact Text.mem_sortTexts.trans (m.mem_namesOf_iff s n)
  shared_order := m.inOrder_sharedNames
  shared_iff := m.mem_sharedNames_iff
  setters_nodup := m.nodup_map_fst_wrongSetters
  setters_iff := m.mem_wrongSetters_iff
  untyped_eq := rfl

def typedNames (m : Capability) : List (Text × Text) :=
  m.declarations.map fun p => (p.1, p.2.type)

section Regrouped

variable {m m' : Capability}

theorem declares_iff (m : Capability) (n : Text) :
    m.Declares n ↔ n ∈ m.typedNames.map (·.1) := by
  simp only [Declares, typedNames, List.map_map, List.mem_map, Function.comp_apply]

/-- A name is declared in both groups iff it is declared twice. -/
theorem mem_sharedNames_iff_count (m : Capability) (n : Text) :
    n ∈ m.sharedNames ↔ (m.typedNames.map (·.1)).count n = 2 := by
  have hnames : m.typedNames.map (·.1) =
      m.clientContextParams.keys ++ m.customClientContextParams.keys := by
    rw [← map_fst_declarations, typedNames, List.map_map]
    rfl
  rw [mem_sharedNames_iff, hnames, List.count_append]
  have hone (group : ParamGroup) : group.keys.count n = if n ∈ group.keys then 1 else 0 :=
    group.nodup_keys.count
  rw [hone, hone]
  by_cases hc : n ∈ m.clientContextParams.keys <;>
    by_cases hu : n ∈ m.customClientContextParams.keys <;> simp [hc, hu]

variable (h : m.typedNames.Perm m'.typedNames)
include h

theorem declares_congr (n : Text) : m.Declares n ↔ m'.Declares n := by
  rw [declares_iff, declares_iff]
  exact (h.map _).mem_iff

theorem collisions_congr : m.errorRows.collisions = m'.errorRows.collisions := by
  have hsetters : m.collidingSetters = m'.collidingSetters :=
    m.inOrder_collidingSetters.eq_of_mem_iff m'.inOrder_collidingSetters fun s => by
      simp only [mem_collidingSetters_iff, declares_congr h]
  have hnames (s : Text) :
      sortTexts (namesOf m.setters s) = sortTexts (namesOf m'.setters s) :=
    (Text.inOrder_sortTexts (m.nodup_namesOf s)).eq_of_mem_iff
      (Text.inOrder_sortTexts (m'.nodup_namesOf s)) fun n => by
        simp only [Text.mem_sortTexts, mem_namesOf_iff, declares_congr h]
  simp only [errorRows, hsetters, hnames]

theorem shared_congr : m.errorRows.shared = m'.errorRows.shared := by
  change m.sharedNames = m'.sharedNames
  refine m.inOrder_sharedNames.eq_of_mem_iff m'.inOrder_sharedNames fun n => ?_
  rw [mem_sharedNames_iff_count, (h.map _).count_eq, ← mem_sharedNames_iff_count]

theorem paramNames_perm : m.paramNames.Perm m'.paramNames :=
  (List.perm_ext_iff_of_nodup m.nodup_paramNames m'.nodup_paramNames).mpr fun n => by
    rw [mem_paramNames_iff, mem_paramNames_iff]
    exact declares_congr h n

theorem untyped_perm : m.errorRows.untyped.Perm m'.errorRows.untyped := by
  have huntyped (k : Capability) : k.errorRows.untyped =
      (k.typedNames.filter fun p => Text.isBlank p.2).map (·.1) := by
    simp only [errorRows, typedNames, List.filter_map, List.map_map]
    rfl
  rw [huntyped, huntyped]
  exact (h.filter _).map _

/-- Moving declarations between the groups only changes the order of the lines. -/
theorem lines_perm : m.errorRows.lines.Perm m'.errorRows.lines := by
  have hsetters : m.errorRows.setters.Perm m'.errorRows.setters :=
    ((paramNames_perm h).map _).filter _
  rw [ErrorRows.lines, ErrorRows.lines, collisions_congr h, shared_congr h]
  exact ((List.Perm.refl _).append (hsetters.map _)).append ((untyped_perm h).map _)

end Regrouped

/-- The lines on the errors of a model are those of its rows, which list all that is wrong with it.
Models that declare the same names with the same types, in any order and in any groups, have the
same lines, with the same collisions and shared names in front; errors depend on the declarations
alone, and warnings not on them. -/
theorem errors_listed (m : Capability) :
    m.errors.map ModelError.message = m.errorRows.lines ∧ m.errorRows.Lists m ∧
    (∀ m' : Capability, m.typedNames.Perm m'.typedNames →
      (m.errors.map ModelError.message).Perm (m'.errors.map ModelError.message) ∧
        m.errorRows.collisions = m'.errorRows.collisions ∧
        m.errorRows.shared = m'.errorRows.shared) ∧
    (∀ m' : Capability, m'.clientContextParams = m.clientContextParams →
      m'.customClientContextParams = m.customClientContextParams → m'.errors = m.errors) ∧
    ∀ client custom : ParamGroup,
      ({ m with clientContextParams := client, customClientContextParams := custom } :
        Capability).warnings = m.warnings := by
  refine ⟨m.lines_errorRows, m.lists_errorRows, fun m' h => ⟨?_, collisions_congr h,
    shared_congr h⟩, fun m' hc hu => ?_, fun client custom => rfl⟩
  · rw [lines_errorRows, lines_errorRows]
    exact lines_perm h
  · simp only [errors, setterCollisions, setters, paramNames, sharedNames, declarations, hc, hu]

def twiceNamedModel : Capability where
  -- One name has no setter, the setter of another is reserved, and two share one.
  clientContextParams := .ofList [("--", ⟨"String", []⟩), ("endpointProvider", ⟨"String", []⟩),
    ("FooBar", ⟨"String", []⟩), ("foo_bar", ⟨[], []⟩)]
  customClientContextParams := .ofList [("foo_bar", ⟨"String", []⟩)]

def regroupedModel : Capability where
  clientContextParams := .ofList [("foo_bar", ⟨"String", []⟩), ("--", ⟨"String", []⟩)]
  customClientContextParams := .ofList [("foo_bar", ⟨[], "none"⟩), ("FooBar", ⟨"String", []⟩),
    ("endpointProvider", ⟨"String", "none"⟩)]

theorem errorRows_twiceNamedModel :
    twiceNamedModel.errorRows =
      { collisions := [([Text.ofString "FooBar", Text.ofString "foo_bar"], Text.ofString "fooBar")]
        shared := [Text.ofString "foo_bar"]
        setters := [(Text.ofString "--", []),
          (Text.ofString "endpointProvider", Text.ofString "endpointProvider")]
        untyped := [Text.ofString "foo_bar"] } := by
  -- The sort is never run: each row that it gets is in order already.
  have hsetters : (twiceNamedModel.setters.map (·.2)).eraseDups =
      [[], Text.ofString "endpointProvider", Text.ofString "fooBar"] := by
    decide +kernel
  have hcolliding : twiceNamedModel.collidingSetters = [Text.ofString "fooBar"] := by
    rw [collidingSetters, hsetters, Text.sortTexts_of_inOrder (by unfold Text.InOrder; decide)]
    decide +kernel
  have hnames : namesOf twiceNamedModel.setters (Text.ofString "fooBar") =
      [Text.ofString "FooBar", Text.ofString "foo_bar"] := by
    decide +kernel
  have hshared : twiceNamedModel.sharedNames = [Text.ofString "foo_bar"] :=
    Text.sortTexts_of_inOrder (List.pairwise_singleton _ _)
  have hwrong : twiceNamedModel.wrongSetters = [(Text.ofString "--", []),
      (Text.ofString "endpointProvider", Text.ofString "endpointProvider")] := by
    decide +kernel
  rw [errorRows, hcolliding, hshared, hwrong, List.map_singleton, hnames,
    Text.sortTexts_of_inOrder (by unfold Text.InOrder; decide)]
  rfl

theorem twiceNamedModel_regrouped :
    twiceNamedModel.typedNames.Perm regroupedModel.typedNames ∧
      twiceNamedModel.errors.map ModelError.message =
        [Text.ofString "Context params FooBar, foo_bar all map to setter 'fooBar'",
          Text.ofString "Context param 'foo_bar' is declared as both client and custom param",
          Text.ofString "Context param '--' does not yield a valid setter name",
          Text.ofString
            "Context param 'endpointProvider' collides with builder method 'endpointProvider'",
          Text.ofString "Context param 'foo_bar' has no type"] ∧
      (twiceNamedModel.errors.map ModelError.message).Perm
        (regroupedModel.errors.map ModelError.message) ∧
      twiceNamedModel.errorRows.collisions = regroupedModel.errorRows.collisions ∧
      twiceNamedModel.saturated.errors = twiceNamedModel.errors := by
  have h : twiceNamedModel.typedNames.Perm regroupedModel.typedNames := by decide
  obtain ⟨hlines, -, hperm, hsame, -⟩ := twiceNamedModel.errors_listed
  rw [errorRows_twiceNamedModel] at hlines
  exact ⟨h, hlines.trans (by decide +kernel), (hperm _ h).1, (hperm _ h).2.1, hsame _ rfl rfl⟩

end Capability

end ClientBuilder
