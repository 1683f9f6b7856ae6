import ClientBuilder.Synthesis
import Mathlib.Data.List.Nodup

namespace ClientBuilder

def Slot.fixed : List Slot :=
  Slot.all.filter fun s => !s.isDynamic

def Slot.names (s : Slot) : List Text :=
  (s.methods fullCapability).map (·.name)

def fixedMethods (m : Capability) : List Method :=
  Slot.fixed.flatMap (slotBlock m .empty)

def declaredSetters (m : Capability) : List Method :=
  m.declarations.map fun p => contextParamSetter p.1 p.2

theorem expander_empty (s : Slot) : Providers.expander .empty s = s.methods := rfl

theorem slotBlock_of_applies {m : Capability} {s : Slot} (h : s.applies m = true) :
    slotBlock m .empty s = s.methods m := by
  rw [slotBlock, if_pos h, expander_empty]

theorem slotBlock_of_not_applies {m : Capability} {s : Slot} (h : s.applies m = false) :
    slotBlock m .empty s = [] := by
  rw [slotBlock, h]
  rfl

/-- A group without parameters has no setters, so the test for an empty group changes nothing. -/
theorem slotBlock_of_group {m : Capability} {s : Slot} {group : ParamGroup}
    (ha : s.applies m = !group.isEmpty) (hm : s.methods m = contextParamSetters group) :
    slotBlock m .empty s = contextParamSetters group := by
  cases h : group.isEmpty with
  | true =>
    rw [h] at ha
    have hp : group.pairs = [] := List.isEmpty_iff.mp h
    rw [slotBlock_of_not_applies ha, contextParamSetters, hp]
    rfl
  | false =>
    rw [h] at ha
    rw [slotBlock_of_applies ha, hm]

theorem slotBlock_clientContextParams (m : Capability) :
    slotBlock m .empty .clientContextParams = contextParamSetters m.clientContextParams :=
  slotBlock_of_group rfl rfl

theorem slotBlock_customClientContextParams (m : Capability) :
    slotBlock m .empty .customClientContextParams =
      contextParamSetters m.customClientContextParams :=
  slotBlock_of_group rfl rfl

/-- The declared setters are the blocks of the two dynamic slots. -/
theorem declaredSetters_eq (m : Capability) :
    declaredSetters m =
      contextParamSetters m.clientContextParams ++
        contextParamSetters m.customClientContextParams := by
  simp only [declaredSetters, Capability.declarations, List.map_append, contextParamSetters]

/-- Up to their order, the methods of a contract are those of the fixed slots and the setters. -/
theorem synthesize_perm (m : Capability) :
    (synthesize m).Perm (fixedMethods m ++ declaredSetters m) := by
  have hs : Slot.all.Perm (Slot.fixed ++ [.clientContextParams, .customClientContextParams]) := by
    decide
  have hd : [Slot.clientContextParams, .customClientContextParams].flatMap (slotBlock m .empty) =
      declaredSetters m := by
    rw [declaredSetters_eq, ← slotBlock_clientContextParams, ← slotBlock_customClientContextParams]
    simp only [List.flatMap_cons, List.flatMap_nil, List.append_nil]
  rw [synthesize, fixedMethods, ← hd, ← List.flatMap_append]
  exact hs.flatMap_right _

theorem mem_fixed_iff (s : Slot) : s ∈ Slot.fixed ↔ s.isDynamic = false := by
  simp [Slot.fixed, Slot.mem_all]

def Method.identifiers (e : Method) : List Text :=
  e.name :: e.parameters.map (·.name)

/-- The methods in the block of a fixed slot are called like the slot's methods, in the same order,
and so are their parameters. -/
theorem map_identifiers_slotBlock_sublist (m : Capability) {s : Slot} (hs : s ∈ Slot.fixed) :
    ((slotBlock m .empty s).map Method.identifiers).Sublist
      ((s.methods fullCapability).map Method.identifiers) := by
  rw [mem_fixed_iff] at hs
  by_cases ha : s.applies m = true
  · rw [slotBlock_of_applies ha]
    cases s with
    | endpointDiscovery =>
      cases hr : m.endpointDiscoveryRequired with
      | true =>
        rw [Slot.methods, hr]
        exact List.Sublist.refl _
      | false =>
        -- Without the deprecated switch the first of the two methods is left out.
        rw [Slot.methods, hr]
        exact List.sublist_cons_self _ _
    | accountIdEndpointMode =>
      have hm : m.supportsAccountIdEndpointMode = true := ha
      rw [Slot.methods, hm]
      exact List.Sublist.refl _
    | clientContextParams => cases hs
    | customClientContextParams => cases hs
    | _ => exact List.Sublist.refl _
  · rw [slotBlock_of_not_applies (Bool.eq_false_iff.mpr ha)]
    exact List.nil_sublist _

/-- The names in the block of a fixed slot are among the slot's names, in the same order. -/
theorem map_name_slotBlock_sublist (m : Capability) {s : Slot} (hs : s ∈ Slot.fixed) :
    ((slotBlock m .empty s).map (·.name)).Sublist s.names := by
  have hn := (map_identifiers_slotBlock_sublist m hs).map fun l => l.headD []
  rw [List.map_map, List.map_map] at hn
  exact hn

/-- A fixed slot has no names besides its own ones, whatever the model. -/
theorem name_mem_names {m : Capability} {s : Slot} {e : Method} (hs : s ∈ Slot.fixed)
    (he : e ∈ slotBlock m .empty s) : e.name ∈ s.names :=
  (map_name_slotBlock_sublist m hs).subset (List.mem_map_of_mem he)

/-- Different fixed slots have no name in common. -/
theorem names_disjoint : Slot.fixed.Pairwise fun s t => ∀ n ∈ s.names, n ∉ t.names := by
  decide

theorem mem_reservedNames_iff (n : Text) : n ∈ reservedNames ↔ ∃ s ∈ Slot.fixed, n ∈ s.names := by
  rw [reservedNames, List.mem_eraseDups, List.mem_flatMap]
  rfl

/-- The names of fixed slots are reserved. -/
theorem name_mem_reservedNames {m : Capability} {e : Method} (he : e ∈ fixedMethods m) :
    e.name ∈ reservedNames := by
  obtain ⟨s, hs, he⟩ := List.mem_flatMap.mp he
  exact (mem_reservedNames_iff _).mpr ⟨s, hs, name_mem_names hs he⟩

/-- A consumer of a type's builder is another type. -/
theorem consumer_type_ne (type : Text) : type ≠ "Consumer<" ++ type ++ ".Builder>" := by
  intro h
  have hl := congrArg List.length h
  simp only [List.length_append] at hl
  have hc : (Text.ofString "Consumer<").length = 9 := by decide
  omega

end ClientBuilder
