import ClientBuilder.Proofs.Issues.Clean
import ClientBuilder.Proofs.Setter.Conservation

namespace ClientBuilder

namespace Text

def startsWithLetter : Text → Bool
  | .char c :: _ => Setter.isLetter c
  | _ => false

/-- A text is a legal identifier: ASCII letters and digits, of which the first is a letter. -/
def IsIdentifier (t : Text) : Prop :=
  t.startsWithLetter = true ∧ ∀ p ∈ t, Setter.isAlnumPoint p = true

instance (t : Text) : Decidable t.IsIdentifier :=
  inferInstanceAs (Decidable (_ ∧ _))

theorem IsIdentifier.ne_nil {t : Text} (h : t.IsIdentifier) : t ≠ [] := by
  rintro rfl
  cases h.1

end Text

namespace Setter

theorem isLetter_lower (c : Char) : isLetter (lower c) = isLetter c := by
  cases hc : isUpper c with
  | false => rw [lower_of_isUpper_eq_false hc]
  | true => rw [isLetter, isLetter, hc, isLower_lower hc, Bool.true_or, Bool.or_true]

theorem isAlnum_lower (c : Char) : isAlnum (lower c) = isAlnum c := by
  cases hc : isUpper c with
  | false => rw [lower_of_isUpper_eq_false hc]
  | true =>
    have hl : isLetter c = true := (isLetter_iff c).mpr (Or.inr hc)
    rw [isAlnum, isAlnum, isLetter_lower, hl, Bool.true_or, Bool.true_or]

theorem isLetter_eq_not_isDigit {c : Char} (h : isAlnum c = true) : isLetter c = !isDigit c := by
  cases hl : isLetter c with
  | true =>
    rw [isDigit_eq_false_of_isLetter hl]
    rfl
  | false =>
    rw [isAlnum, hl, Bool.false_or] at h
    rw [h]
    rfl

theorem isAlnum_of_mem_alnums {name : Text} {c : Char} (h : c ∈ name.alnums) :
    isAlnum c = true := by
  rw [← filter_chars] at h
  exact (List.mem_filter.mp h).2

/-- Up to case, the camel form of a name has the letters and digits of the name. -/
theorem map_lower_camel_chars (name : Text) :
    (camel name.chars).map lower = name.alnums.map lower := by
  rw [map_lower_camel, filter_chars]

theorem isAlnumPoint_of_mem_setterName {name : Text} {p : CodePoint} (h : p ∈ setterName name) :
    isAlnumPoint p = true := by
  obtain ⟨c, hc, rfl⟩ := List.mem_map.mp h
  have hm : lower c ∈ name.alnums.map lower := by
    rw [← map_lower_camel_chars]
    exact List.mem_map_of_mem hc
  obtain ⟨d, hd, he⟩ := List.mem_map.mp hm
  -- The character is a letter or digit of the name but for its case, which makes no difference.
  calc isAlnumPoint (.char c)
      = isAlnum (lower c) := (isAlnum_lower c).symm
    _ = isAlnum (lower d) := by rw [he]
    _ = isAlnum d := isAlnum_lower d
    _ = true := isAlnum_of_mem_alnums hd

/-- A setter name starts with a letter or with a digit as its name does. -/
theorem startsWithLetter_setterName {name : Text} (h : setterName name ≠ []) :
    (setterName name).startsWithLetter = !startsWithDigit name.alnums := by
  have hl := map_lower_camel_chars name
  cases hc : camel name.chars with
  | nil =>
    rw [setterName, hc] at h
    exact absurd rfl h
  | cons c r =>
    cases ha : name.alnums with
    | nil =>
      rw [hc, ha] at hl
      cases hl
    | cons d u =>
      rw [hc, ha, List.map_cons, List.map_cons] at hl
      have hd : isAlnum d = true := isAlnum_of_mem_alnums (ha ▸ List.mem_cons_self)
      have hs : (setterName name).startsWithLetter = isLetter c := by
        rw [setterName, hc]
        rfl
      calc (setterName name).startsWithLetter
          = isLetter (lower c) := by rw [hs, isLetter_lower]
        _ = isLetter d := by rw [(List.cons.inj hl).1, isLetter_lower]
        _ = !isDigit d := isLetter_eq_not_isDigit hd

/-- A setter is a legal identifier unless the first letter or digit of its name is a digit. -/
theorem isIdentifier_setterName_iff {name : Text} (h : setterName name ≠ []) :
    (setterName name).IsIdentifier ↔ startsWithDigit name.alnums = false := by
  rw [Text.IsIdentifier, startsWithLetter_setterName h, Bool.not_eq_true']
  exact and_iff_left fun p hp => isAlnumPoint_of_mem_setterName hp

end Setter

def Slot.identifiers (s : Slot) : List Text :=
  (s.methods fullCapability).flatMap Method.identifiers

theorem mem_identifiers_contextParamSetter {name n : Text} {param : ContextParam} :
    n ∈ (contextParamSetter name param).identifiers ↔ n = Setter.setterName name := by
  simp only [Method.identifiers, contextParamSetter, List.map_cons, List.map_nil, List.mem_cons,
    List.not_mem_nil, or_false, or_self]

/-- All fixed names are legal identifiers. -/
theorem isIdentifier_of_mem_fixed : ∀ s ∈ Slot.fixed, ∀ n ∈ s.identifiers, n.IsIdentifier := by
  decide +kernel

/-- The identifiers of a fixed method are its slot's, whatever the model. -/
theorem isIdentifier_of_mem_fixedMethods {m : Capability} {e : Method} (he : e ∈ fixedMethods m) :
    ∀ n ∈ e.identifiers, n.IsIdentifier := by
  intro n hn
  obtain ⟨s, hs, hb⟩ := List.mem_flatMap.mp he
  have hm : e.identifiers ∈ (s.methods fullCapability).map Method.identifiers :=
    (map_identifiers_slotBlock_sublist m hs).subset (List.mem_map_of_mem hb)
  apply isIdentifier_of_mem_fixed s hs
  rw [Slot.identifiers, List.flatMap_def]
  exact List.mem_flatten.mpr ⟨_, hm, hn⟩

/-- A method of a contract is one of the fixed ones or the setter of a parameter. -/
theorem mem_synthesize_iff {m : Capability} {e : Method} :
    e ∈ synthesize m ↔
      e ∈ fixedMethods m ∨ ∃ p ∈ m.declarations, contextParamSetter p.1 p.2 = e := by
  rw [(synthesize_perm m).mem_iff, List.mem_append, declaredSetters, List.mem_map]

theorem setterName_ne_nil_of_errors {m : Capability} (h : m.errors = [])
    {p : Text × ContextParam} (hp : p ∈ m.declarations) : Setter.setterName p.1 ≠ [] :=
  (((Capability.errors_eq_nil_iff m).mp h).2.2 _ (mem_setterNames hp)).2

/-- In the contract of a model without errors each identifier is one or more ASCII letters and
digits. It is a legal one unless it stands in the setter of a parameter whose name has a digit
before any letter, so all are legal exactly if no parameter has such a name. -/
theorem identifiers_of_errors_eq_nil {m : Capability} (h : m.errors = []) :
    (∀ e ∈ synthesize m, ∀ n ∈ e.identifiers,
      n ≠ [] ∧ (∀ p ∈ n, Setter.isAlnumPoint p = true) ∧
        (n.IsIdentifier ↔ ∀ p ∈ m.declarations, contextParamSetter p.1 p.2 = e →
          Setter.startsWithDigit p.1.alnums = false)) ∧
      ((∀ e ∈ synthesize m, ∀ n ∈ e.identifiers, n.IsIdentifier) ↔
        ∀ p ∈ m.declarations, Setter.startsWithDigit p.1.alnums = false) := by
  have hsetter {p : Text × ContextParam} (hp : p ∈ m.declarations) :
      (Setter.setterName p.1).IsIdentifier ↔ Setter.startsWithDigit p.1.alnums = false :=
    Setter.isIdentifier_setterName_iff (setterName_ne_nil_of_errors h hp)
  have hlegal (e : Method) (he : e ∈ synthesize m) (n : Text) (hn : n ∈ e.identifiers) :
      n.IsIdentifier ↔ ∀ p ∈ m.declarations, contextParamSetter p.1 p.2 = e →
        Setter.startsWithDigit p.1.alnums = false := by
    constructor
    · rintro hi p hp rfl
      rw [mem_identifiers_contextParamSetter] at hn
      exact (hsetter hp).mp (hn ▸ hi)
    · intro hd
      -- A fixed method has no need of the hypothesis, and a setter is an instance of it.
      rcases mem_synthesize_iff.mp he with hf | ⟨p, hp, rfl⟩
      · exact isIdentifier_of_mem_fixedMethods hf n hn
      · rw [mem_identifiers_contextParamSetter.mp hn]
        exact (hsetter hp).mpr (hd p hp rfl)
  refine ⟨fun e he n hn => ?_, fun hall p hp => ?_, fun hd e he n hn => ?_⟩
  · rcases mem_synthesize_iff.mp he with hf | ⟨p, hp, rfl⟩
    · have hi := isIdentifier_of_mem_fixedMethods hf n hn
      exact ⟨hi.ne_nil, hi.2, hlegal e he n hn⟩
    · refine ⟨?_, ?_, hlegal _ he n hn⟩
      · rw [mem_identifiers_contextParamSetter.mp hn]
        exact setterName_ne_nil_of_errors h hp
      · rw [mem_identifiers_contextParamSetter.mp hn]
        exact fun q hq => Setter.isAlnumPoint_of_mem_setterName hq
  · have hn := hall _ (setter_mem_synthesize hp) (Setter.setterName p.1) List.mem_cons_self
    exact (hsetter hp).mp hn
  · exact (hlegal e he n hn).mpr fun p hp _ => hd p hp

theorem bucketModel_identifiers :
    bucketModel.errors = [] ∧
      ∀ e ∈ synthesize bucketModel, ∀ n ∈ e.identifiers, n.IsIdentifier := by
  have he : bucketModel.errors = [] := bucketModel.errors_eq_nil_iff.mpr (by decide)
  exact ⟨he, (identifiers_of_errors_eq_nil he).2.mpr (by decide)⟩

def secondFactorModel : Capability where
  serviceName := "Example"
  clientContextParams := .ofList [("2fa", ⟨"Boolean", []⟩)]

theorem errors_secondFactorModel : secondFactorModel.errors = [] :=
  secondFactorModel.errors_eq_nil_iff.mpr (by decide)

theorem secondFactor_not_isIdentifier :
    ¬∀ m : Capability, m.errors = [] →
      ∀ e ∈ synthesize m, ∀ n ∈ e.identifiers, n.IsIdentifier := by
  intro hall
  let p : Text × ContextParam := ("2fa", ⟨"Boolean", []⟩)
  have hp : p ∈ secondFactorModel.declarations := List.mem_cons_self
  have hi := hall secondFactorModel errors_secondFactorModel _ (setter_mem_synthesize hp)
    (Setter.setterName p.1) List.mem_cons_self
  exact absurd hi (by decide)

end ClientBuilder
