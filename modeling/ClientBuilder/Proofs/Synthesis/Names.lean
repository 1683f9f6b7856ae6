import ClientBuilder.Proofs.Synthesis.Blocks
import Mathlib.Data.List.Flatten

namespace ClientBuilder

/-- No method of the contract besides the setter of a context parameter has the setter's name. -/
def SettersApart (m : Capability) : Prop :=
  ∀ p ∈ m.declarations, ∀ before after,
    synthesize m = before ++ contextParamSetter p.1 p.2 :: after →
      ∀ e ∈ before ++ after, e.name ≠ Setter.setterName p.1

def overloadNames : List Text :=
  ["serviceConfiguration", "tokenProvider"]

/-- A method by what tells overloads apart. -/
def Method.overload (e : Method) : Text × List Text :=
  (e.name, e.parameterTypes)

def Capability.setterNames (m : Capability) : List Text :=
  m.declarations.map fun p => Setter.setterName p.1

theorem map_name_declaredSetters (m : Capability) :
    (declaredSetters m).map (·.name) = m.setterNames := by
  simp only [declaredSetters, Capability.setterNames, List.map_map]
  rfl

theorem mem_setterNames {m : Capability} {p : Text × ContextParam} (hp : p ∈ m.declarations) :
    Setter.setterName p.1 ∈ m.setterNames :=
  List.mem_map_of_mem hp

/-- A method is the only one of its name in a row iff its name occurs there once. -/
theorem count_name_eq_one_iff (before after : List Method) (e : Method) :
    ((before ++ e :: after).map (·.name)).count e.name = 1 ↔
      ∀ f ∈ before ++ after, f.name ≠ e.name := by
  have hc : ((before ++ e :: after).map (·.name)).count e.name =
      ((before ++ after).map (·.name)).count e.name + 1 := by
    simp only [List.map_append, List.map_cons, List.count_append, List.count_cons_self]
    omega
  rw [hc, Nat.add_eq_right, List.count_eq_zero, List.mem_map]
  constructor
  · intro h f hf he
    exact h ⟨f, hf, he⟩
  · rintro h ⟨f, hf, he⟩
    exact h f hf he

/-- How often a name stands in a contract, by fixed slots and by setters. -/
theorem count_name_synthesize (m : Capability) (n : Text) :
    ((synthesize m).map (·.name)).count n =
      ((fixedMethods m).map (·.name)).count n + m.setterNames.count n := by
  rw [((synthesize_perm m).map _).count_eq, List.map_append, List.count_append,
    map_name_declaredSetters]

theorem setter_mem_synthesize {m : Capability} {p : Text × ContextParam} (hp : p ∈ m.declarations) :
    contextParamSetter p.1 p.2 ∈ synthesize m := by
  rw [(synthesize_perm m).mem_iff, List.mem_append]
  exact Or.inr (List.mem_map_of_mem hp)

/-- Setters are apart just where each setter name stands once. -/
theorem settersApart_iff_count (m : Capability) :
    SettersApart m ↔ ∀ n ∈ m.setterNames, ((synthesize m).map (·.name)).count n = 1 := by
  constructor
  · intro h n hn
    obtain ⟨p, hp, rfl⟩ := List.mem_map.mp hn
    obtain ⟨before, after, hs⟩ := List.append_of_mem (setter_mem_synthesize hp)
    rw [hs]
    exact (count_name_eq_one_iff before after (contextParamSetter p.1 p.2)).mpr
      (h p hp before after hs)
  · intro h p hp before after hs
    have hc := h _ (mem_setterNames hp)
    rw [hs] at hc
    exact (count_name_eq_one_iff before after (contextParamSetter p.1 p.2)).mp hc

/-- The setters stand apart iff their names differ from each other and from those of the fixed
methods. -/
theorem settersApart_iff (m : Capability) :
    SettersApart m ↔
      m.setterNames.Nodup ∧ ∀ n ∈ m.setterNames, n ∉ (fixedMethods m).map (·.name) := by
  rw [settersApart_iff_count, List.nodup_iff_count_eq_one, ← forall₂_and]
  refine forall₂_congr fun n hn => ?_
  have hpos := List.count_pos_iff.mpr hn
  rw [count_name_synthesize, ← List.count_eq_zero]
  omega

theorem fixedMethods_map {α : Type} (f : Method → α) (m : Capability) :
    (fixedMethods m).map f = Slot.fixed.flatMap fun s => (slotBlock m .empty s).map f := by
  rw [fixedMethods, List.map_flatMap]

/-- The names of the fixed methods are among those of the model with every capability. -/
theorem map_name_fixedMethods_sublist (m : Capability) :
    ((fixedMethods m).map (·.name)).Sublist (Slot.fixed.flatMap Slot.names) := by
  rw [fixedMethods_map]
  exact List.Sublist.flatMap_right Slot.fixed fun _ hs => map_name_slotBlock_sublist m hs

/-- Within a slot, methods differ in name or parameter types. -/
theorem nodup_overload_slotBlock (m : Capability) {s : Slot} (hs : s ∈ Slot.fixed) :
    ((slotBlock m .empty s).map Method.overload).Nodup := by
  by_cases ha : s.applies m = true
  · rw [slotBlock_of_applies ha]
    cases s with
    | endpointDiscovery =>
      by_cases hr : m.endpointDiscoveryRequired = true
      · simp only [Slot.methods, hr, if_true]
        decide
      · simp only [Slot.methods, hr]
        decide
    | serviceConfiguration =>
      simp only [Slot.methods, List.map_cons, List.map_nil, List.nodup_cons, List.mem_singleton,
        List.not_mem_nil, not_false_eq_true, List.nodup_nil, and_true]
      intro h
      have ht := congrArg Prod.snd h
      exact consumer_type_ne _ (List.singleton_inj.mp ht)
    | accountIdEndpointMode =>
      have hm : m.supportsAccountIdEndpointMode = true := ha
      simp only [Slot.methods, hm, if_true]
      decide
    | tokenProvider =>
      simp only [Slot.methods]
      decide
    | clientContextParams => exact absurd hs (by decide)
    | customClientContextParams => exact absurd hs (by decide)
    | _ => exact List.nodup_singleton _
  · rw [slotBlock_of_not_applies (Bool.eq_false_iff.mpr ha)]
    exact List.nodup_nil

/-- Methods of fixed slots differ in name or parameter types. -/
theorem nodup_overload_fixedMethods (m : Capability) :
    ((fixedMethods m).map Method.overload).Nodup := by
  rw [fixedMethods_map, List.nodup_flatMap]
  refine ⟨fun s hs => nodup_overload_slotBlock m hs, ?_⟩
  -- Methods of different slots differ in name already.
  apply names_disjoint.imp_of_mem
  intro s t hs ht hd k hks hkt
  obtain ⟨e, he, rfl⟩ := List.mem_map.mp hks
  obtain ⟨f, hf, hfe⟩ := List.mem_map.mp hkt
  have hn : f.name = e.name := congrArg Prod.fst hfe
  exact hd _ (name_mem_names hs he) (hn ▸ name_mem_names ht hf)

/-- Where the setters stand apart, methods of the contract differ in name or parameter types. -/
theorem nodup_overload_synthesize {m : Capability} (h : SettersApart m) :
    ((synthesize m).map Method.overload).Nodup := by
  obtain ⟨hd, hf⟩ := (settersApart_iff m).mp h
  rw [((synthesize_perm m).map _).nodup_iff, List.map_append, List.nodup_append]
  refine ⟨nodup_overload_fixedMethods m, ?_, ?_⟩
  · apply List.Nodup.of_map Prod.fst
    rw [List.map_map]
    exact (map_name_declaredSetters m).symm ▸ hd
  · intro k hk l hl hkl
    obtain ⟨e, he, rfl⟩ := List.mem_map.mp hk
    obtain ⟨f, hfm, rfl⟩ := List.mem_map.mp hl
    have hn : e.name = f.name := congrArg Prod.fst hkl
    have hs : f.name ∈ m.setterNames := by
      rw [← map_name_declaredSetters]
      exact List.mem_map_of_mem hfm
    exact hf _ hs (List.mem_map.mpr ⟨e, he, hn⟩)

/-- Overloads come in two slots, and both of their methods share the name. -/
theorem slot_of_overloadName : ∀ s ∈ Slot.fixed, ∀ n ∈ s.names, n ∈ overloadNames →
    (s = .serviceConfiguration ∨ s = .tokenProvider) ∧ s.names = [n, n] := by
  decide

/-- Overloads come together. -/
theorem map_name_slotBlock_of_overloads {m : Capability} {s : Slot} {e : Method}
    (hs : s = .serviceConfiguration ∨ s = .tokenProvider) (he : e ∈ slotBlock m .empty s) :
    (slotBlock m .empty s).map (·.name) = s.names := by
  by_cases ha : s.applies m = true
  · rw [slotBlock_of_applies ha]
    rcases hs with rfl | rfl <;> rfl
  · rw [slotBlock_of_not_applies (Bool.eq_false_iff.mpr ha)] at he
    exact absurd he List.not_mem_nil

/-- A name of a fixed method occurs once, or twice if it is that of two overloads. -/
theorem count_name_fixedMethods {m : Capability} {n : Text}
    (hn : n ∈ (fixedMethods m).map (·.name)) :
    ((fixedMethods m).map (·.name)).count n = if n ∈ overloadNames then 2 else 1 := by
  -- From above the names of all fixed slots bound the count, from below the pair of overloads.
  have hsub := map_name_fixedMethods_sublist m
  have hfull : ∀ k ∈ Slot.fixed.flatMap Slot.names,
      (Slot.fixed.flatMap Slot.names).count k = if k ∈ overloadNames then 2 else 1 := by
    decide
  have hle := hsub.count_le n
  rw [hfull n (hsub.subset hn)] at hle
  have hpos := List.count_pos_iff.mpr hn
  by_cases ho : n ∈ overloadNames
  · rw [if_pos ho] at hle ⊢
    obtain ⟨e, he, rfl⟩ := List.mem_map.mp hn
    obtain ⟨s, hs, he⟩ := List.mem_flatMap.mp he
    obtain ⟨hp, hnames⟩ := slot_of_overloadName s hs e.name (name_mem_names hs he) ho
    have hblock : [e.name, e.name].Sublist ((fixedMethods m).map (·.name)) := by
      rw [← hnames, ← map_name_slotBlock_of_overloads hp he]
      exact (List.sublist_flatten_of_mem (List.mem_map_of_mem hs)).map _
    have hge := hblock.count_le e.name
    simp only [List.count_cons_self, List.count_nil] at hge
    omega
  · rw [if_neg ho] at hle ⊢
    omega

theorem overloadNames_reserved : ∀ n ∈ overloadNames, n ∈ reservedNames := by
  decide

/-- Where the setters stand apart and no reserved name is one of theirs, a name occurs once in the
contract, or twice if it is that of two overloads. -/
theorem count_name_of_settersApart {m : Capability} (h : SettersApart m)
    (hr : ∀ n ∈ m.setterNames, n ∉ reservedNames) {n : Text}
    (hn : n ∈ (synthesize m).map (·.name)) :
    ((synthesize m).map (·.name)).count n = if n ∈ overloadNames then 2 else 1 := by
  by_cases hs : n ∈ m.setterNames
  · have ho : n ∉ overloadNames := fun ho => hr n hs (overloadNames_reserved n ho)
    rw [(settersApart_iff_count m).mp h n hs, if_neg ho]
  · have hmem : n ∈ (fixedMethods m).map (·.name) := by
      rw [((synthesize_perm m).map _).mem_iff, List.map_append, List.mem_append,
        map_name_declaredSetters] at hn
      exact hn.resolve_right hs
    rw [count_name_synthesize, List.count_eq_zero.mpr hs, Nat.add_zero,
      count_name_fixedMethods hmem]

end ClientBuilder
