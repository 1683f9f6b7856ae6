import ClientBuilder.ModelIssues
import ClientBuilder.Proofs.Synthesis.Names

namespace ClientBuilder

theorem eraseDups_of_nodup {names : List Text} (h : names.Nodup) : names.eraseDups = names := by
  induction names with
  | nil => rfl
  | cons n r ih =>
    obtain ⟨hn, hr⟩ := List.nodup_cons.mp h
    have hf : r.filter (fun k => !k == n) = r := by
      rw [List.filter_eq_self]
      intro k hk
      have hkn : k ≠ n := fun he => hn (he ▸ hk)
      simpa using hkn
    rw [List.eraseDups_cons, hf, ih hr]

namespace Capability

theorem length_namesOf (m : Capability) (setter : Text) :
    (namesOf m.setters setter).length = (m.paramNames.map Setter.setterName).count setter := by
  rw [namesOf, setters, List.length_map, ← List.countP_eq_length_filter, List.countP_map,
    List.count_eq_countP, List.countP_map]
  apply List.countP_congr
  intro n _
  simp

/-- No collision is reported just where different names have different setters. -/
theorem setterCollisions_eq_nil_iff (m : Capability) :
    m.setterCollisions = [] ↔ (m.paramNames.map Setter.setterName).Nodup := by
  have hs : m.setters.map (·.2) = m.paramNames.map Setter.setterName := by
    simp only [setters, List.map_map]
    rfl
  have hmem (s : Text) : s ∈ sortTexts (m.setters.map (·.2)).eraseDups ↔
      s ∈ m.paramNames.map Setter.setterName := by
    rw [sortTexts, (List.mergeSort_perm _ _).mem_iff, List.mem_eraseDups, hs]
  simp only [setterCollisions, List.map_eq_nil_iff, List.filter_eq_nil_iff, List.forall_mem_map,
    hmem, length_namesOf, decide_eq_true_eq, Nat.not_lt]
  rw [List.nodup_iff_count_le_one]
  constructor
  · intro h s
    by_cases hm : s ∈ m.paramNames.map Setter.setterName
    · obtain ⟨n, hn, rfl⟩ := List.mem_map.mp hm
      exact h n hn
    · rw [List.count_eq_zero.mpr hm]
      exact Nat.zero_le 1
  · intro h n _
    exact h _

theorem sharedNames_eq_nil_iff (m : Capability) :
    m.sharedNames = [] ↔
      ∀ n ∈ m.clientContextParams.keys, n ∉ m.customClientContextParams.keys := by
  have hp := List.mergeSort_perm
    (m.clientContextParams.keys.filter m.customClientContextParams.contains) Text.le
  rw [sharedNames, sortTexts, ← List.length_eq_zero_iff, hp.length_eq, List.length_eq_zero_iff,
    List.filter_eq_nil_iff]
  simp only [OrderedMap.contains, List.contains_iff_mem]

/-- The names of the declarations are those of the first group and then those of the second. -/
theorem map_fst_declarations (m : Capability) :
    m.declarations.map (·.1) = m.clientContextParams.keys ++ m.customClientContextParams.keys :=
  List.map_append

/-- No name is declared twice just where the groups share none. -/
theorem nodup_names_iff (m : Capability) :
    (m.declarations.map (·.1)).Nodup ↔ m.sharedNames = [] := by
  rw [map_fst_declarations, List.nodup_append, sharedNames_eq_nil_iff]
  constructor
  · rintro ⟨_, _, h⟩ n hn hn'
    exact h n hn n hn' rfl
  · intro h
    refine ⟨m.clientContextParams.nodup_keys, m.customClientContextParams.nodup_keys, ?_⟩
    rintro n hn k hk rfl
    exact h n hn hk

/-- Neither setters nor names collide iff all declarations have setters of different names. -/
theorem nodup_setterNames_iff (m : Capability) :
    m.setterNames.Nodup ↔ m.setterCollisions = [] ∧ m.sharedNames = [] := by
  have hmap : m.setterNames = (m.declarations.map (·.1)).map Setter.setterName := by
    rw [setterNames, List.map_map]
    rfl
  rw [setterCollisions_eq_nil_iff, ← nodup_names_iff]
  constructor
  · intro h
    have hn : (m.declarations.map (·.1)).Nodup := List.Nodup.of_map Setter.setterName (hmap ▸ h)
    rw [paramNames, eraseDups_of_nodup hn, ← hmap]
    exact ⟨h, hn⟩
  · rintro ⟨h, hn⟩
    rw [paramNames, eraseDups_of_nodup hn, ← hmap] at h
    exact h

/-- A name is fine by itself if its setter is neither reserved nor empty. -/
theorem setterErrors_eq_nil_iff (name : Text) :
    setterErrors name = [] ↔
      Setter.setterName name ∉ reservedNames ∧ Setter.setterName name ≠ [] := by
  simp only [setterErrors, List.append_eq_nil_iff, ite_eq_right_iff, List.cons_ne_nil, imp_false,
    List.contains_iff_mem]

theorem mem_paramNames_iff (m : Capability) (n : Text) :
    n ∈ m.paramNames ↔ ∃ p ∈ m.declarations, p.1 = n := by
  rw [paramNames, List.mem_eraseDups, List.mem_map]

/-- A model has no errors iff its declarations have types and setters with names of their own that
are neither empty nor reserved. -/
theorem errors_eq_nil_iff (m : Capability) :
    m.errors = [] ↔
      (∀ p ∈ m.declarations, Text.isBlank p.2.type = false) ∧ m.setterNames.Nodup ∧
        ∀ n ∈ m.setterNames, n ∉ reservedNames ∧ n ≠ [] := by
  have hset : (m.paramNames.flatMap setterErrors = []) ↔
      ∀ n ∈ m.setterNames, n ∉ reservedNames ∧ n ≠ [] := by
    simp only [List.flatMap_eq_nil_iff, setterErrors_eq_nil_iff, mem_paramNames_iff, setterNames,
      List.forall_mem_map]
    constructor
    · intro h p hp
      exact h p.1 ⟨p, hp, rfl⟩
    · rintro h n ⟨p, hp, rfl⟩
      exact h p hp
  simp only [errors, List.append_eq_nil_iff, List.map_eq_nil_iff, hset, nodup_setterNames_iff,
    List.filter_eq_nil_iff, Bool.not_eq_true]
  tauto

/-- Some other model with the same parameters and every capability of the fixed slots. -/
def saturated (m : Capability) : Capability :=
  { fullCapability with
    clientContextParams := m.clientContextParams
    customClientContextParams := m.customClientContextParams }

theorem setterNames_congr {m m' : Capability}
    (hc : m'.clientContextParams = m.clientContextParams)
    (hu : m'.customClientContextParams = m.customClientContextParams) :
    m'.setterNames = m.setterNames := by
  rw [setterNames, setterNames, declarations, declarations, hc, hu]

end Capability

/-- A reserved name is that of a fixed method as soon as every capability is there. -/
theorem mem_fixedMethods_saturated (m : Capability) {n : Text} (h : n ∈ reservedNames) :
    n ∈ (fixedMethods m.saturated).map (·.name) := by
  obtain ⟨s, hs, hn⟩ := (mem_reservedNames_iff n).mp h
  have hnames : ∀ t ∈ Slot.fixed, (slotBlock m.saturated .empty t).map (·.name) = t.names := by
    intro t ht
    rw [mem_fixed_iff] at ht
    cases t <;> first | rfl | cases ht
  rw [fixedMethods_map, List.mem_flatMap]
  exact ⟨s, hs, (hnames s hs).symm ▸ hn⟩

theorem reservedNames_ne_nil : ∀ n ∈ reservedNames, n ≠ [] := by
  decide

/-- Every method has a name iff every setter has one. -/
theorem names_ne_nil_iff (m : Capability) :
    (∀ e ∈ synthesize m, e.name ≠ []) ↔ ∀ n ∈ m.setterNames, n ≠ [] := by
  simp only [(synthesize_perm m).mem_iff, List.mem_append, or_imp, forall_and]
  have hf : ∀ e ∈ fixedMethods m, e.name ≠ [] := fun e he =>
    reservedNames_ne_nil _ (name_mem_reservedNames he)
  simp only [← map_name_declaredSetters, List.forall_mem_map]
  exact ⟨fun h => h.2, fun h => ⟨hf, h⟩⟩

/-- The check reports no error exactly for parameters that have types and whose setters stand apart
with names of their own, whatever else the model says; the methods are then told apart by name and
parameter types, and only overloads share a name. -/
theorem errors_eq_nil_iff_settersApart (m : Capability) :
    (m.errors = [] ↔
      (∀ p ∈ m.declarations, Text.isBlank p.2.type = false) ∧
        ∀ m' : Capability, m'.clientContextParams = m.clientContextParams →
          m'.customClientContextParams = m.customClientContextParams →
            (∀ e ∈ synthesize m', e.name ≠ []) ∧ SettersApart m') ∧
    (m.errors = [] →
      ∀ m' : Capability, m'.clientContextParams = m.clientContextParams →
        m'.customClientContextParams = m.customClientContextParams →
          ((synthesize m').map fun e => (e.name, e.parameterTypes)).Nodup ∧
            ∀ n ∈ (synthesize m').map (·.name), ((synthesize m').map (·.name)).count n =
              if n = "serviceConfiguration" ∨ n = "tokenProvider" then 2 else 1) := by
  have happ {m' : Capability} (hc : m'.clientContextParams = m.clientContextParams)
      (hu : m'.customClientContextParams = m.customClientContextParams)
      (hd : m.setterNames.Nodup) (hr : ∀ n ∈ m.setterNames, n ∉ reservedNames) :
      SettersApart m' := by
    rw [settersApart_iff, Capability.setterNames_congr hc hu]
    refine ⟨hd, fun n hn hf => hr n hn ?_⟩
    obtain ⟨e, he, rfl⟩ := List.mem_map.mp hf
    exact name_mem_reservedNames he
  -- What the check asks for is about the two groups alone, so it is the same for all those models.
  rw [m.errors_eq_nil_iff]
  constructor
  · constructor
    · rintro ⟨ht, hd, hn⟩
      refine ⟨ht, fun m' hc hu => ⟨?_, happ hc hu hd fun n h => (hn n h).1⟩⟩
      rw [names_ne_nil_iff, Capability.setterNames_congr hc hu]
      exact fun n h => (hn n h).2
    · rintro ⟨ht, h⟩
      -- With every capability given, each reserved name is that of some method.
      obtain ⟨hne, ha⟩ := h m.saturated rfl rfl
      rw [settersApart_iff, Capability.setterNames_congr rfl rfl] at ha
      rw [names_ne_nil_iff, Capability.setterNames_congr rfl rfl] at hne
      exact ⟨ht, ha.1, fun n hn =>
        ⟨fun hr => ha.2 n hn (mem_fixedMethods_saturated m hr), hne n hn⟩⟩
  · rintro ⟨_, hd, hn⟩ m' hc hu
    have hr : ∀ n ∈ m.setterNames, n ∉ reservedNames := fun n h => (hn n h).1
    have ha := happ hc hu hd hr
    refine ⟨nodup_overload_synthesize ha, fun n hm => ?_⟩
    rw [← Capability.setterNames_congr hc hu] at hr
    rw [count_name_of_settersApart ha hr hm]
    simp only [overloadNames, List.mem_cons, List.not_mem_nil, or_false]

def bucketModel : Capability where
  serviceName := "Example"
  clientContextParams := .ofList [("ForcePathStyle", ⟨"Boolean", []⟩)]
  customClientContextParams := .ofList [("cross_region", ⟨"Boolean", []⟩)]

theorem bucketModel_overloads : bucketModel.errors = [] ∧ SettersApart bucketModel.saturated ∧
    ((synthesize bucketModel.saturated).map fun e => (e.name, e.parameterTypes)).Nodup := by
  have he : bucketModel.errors = [] := bucketModel.errors_eq_nil_iff.mpr (by decide)
  have h := errors_eq_nil_iff_settersApart bucketModel
  exact ⟨he, ((h.1.mp he).2 bucketModel.saturated rfl rfl).2,
    (h.2 he bucketModel.saturated rfl rfl).1⟩

end ClientBuilder
