import ClientBuilder.Proofs.Capability.Fields
import ClientBuilder.Proofs.Synthesis.Blocks
import Mathlib.Data.List.Pairwise

/-!
What the blocks of a contract depend on. A slot looks at its own provider and, of the model, at its
own fields and the name of the service, so what is changed for one slot leaves the methods before
and behind its block as they are.
-/

namespace ClientBuilder

open Capability (Field)

namespace Slot

def before (k : Slot) : List Slot :=
  all.takeWhile fun s => s ≠ k

def behind (k : Slot) : List Slot :=
  (all.dropWhile fun s => s ≠ k).tail

theorem all_eq (k : Slot) : all = k.before ++ k :: k.behind := by
  cases k <;> rfl

theorem not_mem_around (k : Slot) : k ∉ k.before ++ k.behind := by
  have hn := nodup_all
  rw [k.all_eq, List.nodup_middle] at hn
  exact (List.nodup_cons.mp hn).1

theorem ne_of_mem_before {s k : Slot} (h : s ∈ k.before) : s ≠ k := by
  rintro rfl
  exact s.not_mem_around (List.mem_append_left _ h)

theorem ne_of_mem_behind {s k : Slot} (h : s ∈ k.behind) : s ≠ k := by
  rintro rfl
  exact s.not_mem_around (List.mem_append_right _ h)

theorem key_injective {s t : Slot} (h : s.key = t.key) : s = t := by
  have ho := s.ofKey?_key
  rw [h, t.ofKey?_key] at ho
  exact (Option.some.inj ho).symm

def fields : Slot → List Field
  | endpointDiscovery => [.hasEndpointDiscoveryOperation, .endpointDiscoveryRequired]
  | serviceConfiguration => [.serviceConfigType]
  | endpointProvider => [.endpointProviderType]
  | authSchemeProvider => [.authSchemeProviderType]
  | clientContextParams => [.clientContextParams]
  | customClientContextParams => [.customClientContextParams]
  | accountIdEndpointMode => [.supportsAccountIdEndpointMode]
  | tokenProvider => [.usesBearerAuth]
  | requestChecksumCalculation => [.hasRequestChecksumCapability]
  | responseChecksumValidation => [.hasResponseChecksumCapability]
  | sigv4aSigningRegionSet => [.supportsSigv4aRegionSet]

end Slot

def interfaceFields : List Field :=
  [.descriptiveServiceName, .basePackage, .baseBuilderInterface, .syncBuilderInterface,
    .asyncBuilderInterface]

/-- Besides the name of the service, each field belongs to the interfaces or to one slot. -/
theorem fields_perm :
    Field.all.Perm (.serviceName :: (interfaceFields ++ Slot.all.flatMap Slot.fields)) := by
  decide

theorem nodup_fields :
    (Field.serviceName :: (interfaceFields ++ Slot.all.flatMap Slot.fields)).Nodup :=
  fields_perm.nodup_iff.mp (by decide)

theorem serviceName_not_mem_interfaceFields : .serviceName ∉ interfaceFields := by
  decide

theorem Slot.serviceName_not_mem_fields (s : Slot) : .serviceName ∉ s.fields := by
  intro h
  refine (List.nodup_cons.mp nodup_fields).1 (List.mem_append_right _ ?_)
  exact List.mem_flatMap.mpr ⟨s, s.mem_all, h⟩

theorem Slot.not_mem_interfaceFields {s : Slot} {f : Field} (h : f ∈ s.fields) :
    f ∉ interfaceFields := by
  intro hi
  have hn := List.nodup_append.mp (List.nodup_cons.mp nodup_fields).2
  exact hn.2.2 f hi f (List.mem_flatMap.mpr ⟨s, s.mem_all, h⟩) rfl

/-- Different slots have no field in common. -/
theorem Slot.not_mem_fields_of_ne {s k : Slot} (hs : s ≠ k) {f : Field} (h : f ∈ s.fields) :
    f ∉ k.fields := by
  have hn := (List.nodup_append.mp (List.nodup_cons.mp nodup_fields).2).2.1
  -- The fields of all slots in one row do not repeat, so those of two slots have nothing in common.
  have hd := (List.nodup_flatMap.mp hn).2
  have : Std.Symm (Function.onFun List.Disjoint fields) := ⟨fun _ _ => List.disjoint_symm⟩
  intro hk
  exact hd.forall s.mem_all k.mem_all hs h hk

/-- Two models differ in no other fields than the given ones. -/
def Capability.SameOutside (fields : List Field) (m m' : Capability) : Prop :=
  ∀ f, f ∉ fields → m'.held f = m.held f

section Congruence

variable {m m' : Capability} {s : Slot}

/-- Whether a slot applies depends on its own fields. -/
theorem applies_congr (h : ∀ f ∈ s.fields, m'.held f = m.held f) : s.applies m' = s.applies m := by
  cases s with
  | endpointDiscovery => exact h .hasEndpointDiscoveryOperation (by decide)
  | serviceConfiguration =>
    have ht : m'.serviceConfigType = m.serviceConfigType := h .serviceConfigType (by decide)
    rw [Slot.applies, Slot.applies, Capability.hasServiceLevelConfig,
      Capability.hasServiceLevelConfig, ht]
  | endpointProvider => rfl
  | authSchemeProvider => rfl
  | clientContextParams =>
    have hg : m'.clientContextParams = m.clientContextParams := h .clientContextParams (by decide)
    rw [Slot.applies, Slot.applies, hg]
  | customClientContextParams =>
    have hg : m'.customClientContextParams = m.customClientContextParams :=
      h .customClientContextParams (by decide)
    rw [Slot.applies, Slot.applies, hg]
  | accountIdEndpointMode => exact h .supportsAccountIdEndpointMode (by decide)
  | tokenProvider => exact h .usesBearerAuth (by decide)
  | requestChecksumCalculation => exact h .hasRequestChecksumCapability (by decide)
  | responseChecksumValidation => exact h .hasResponseChecksumCapability (by decide)
  | sigv4aSigningRegionSet => exact h .supportsSigv4aRegionSet (by decide)

/-- The methods of a slot depend on its own fields and the name of the service. -/
theorem methods_congr (hn : m'.serviceName = m.serviceName)
    (h : ∀ f ∈ s.fields, m'.held f = m.held f) : s.methods m' = s.methods m := by
  cases s with
  | endpointDiscovery =>
    have hr : m'.endpointDiscoveryRequired = m.endpointDiscoveryRequired :=
      h .endpointDiscoveryRequired (by decide)
    rw [Slot.methods, Slot.methods, hr]
  | serviceConfiguration =>
    have ht : m'.serviceConfigType = m.serviceConfigType := h .serviceConfigType (by decide)
    rw [Slot.methods, Slot.methods, ht]
  | endpointProvider =>
    have ht : m'.endpointProviderType = m.endpointProviderType :=
      h .endpointProviderType (by decide)
    rw [Slot.methods, Slot.methods, Capability.endpointProviderTypeName,
      Capability.endpointProviderTypeName, ht, hn]
  | authSchemeProvider =>
    have ht : m'.authSchemeProviderType = m.authSchemeProviderType :=
      h .authSchemeProviderType (by decide)
    rw [Slot.methods, Slot.methods, Capability.authSchemeProviderTypeName,
      Capability.authSchemeProviderTypeName, ht, hn]
  | clientContextParams =>
    have hg : m'.clientContextParams = m.clientContextParams := h .clientContextParams (by decide)
    rw [Slot.methods, Slot.methods, hg]
  | customClientContextParams =>
    have hg : m'.customClientContextParams = m.customClientContextParams :=
      h .customClientContextParams (by decide)
    rw [Slot.methods, Slot.methods, hg]
  | accountIdEndpointMode =>
    have hm : m'.supportsAccountIdEndpointMode = m.supportsAccountIdEndpointMode :=
      h .supportsAccountIdEndpointMode (by decide)
    rw [Slot.methods, Slot.methods, hm]
  | tokenProvider => rfl
  | requestChecksumCalculation => rfl
  | responseChecksumValidation => rfl
  | sigv4aSigningRegionSet => rfl

/-- The block of a slot depends on the fields of the slot and on the name of the service. -/
theorem slotBlock_congr (hn : m'.serviceName = m.serviceName)
    (h : ∀ f ∈ s.fields, m'.held f = m.held f) : slotBlock m' .empty s = slotBlock m .empty s := by
  rw [slotBlock, slotBlock, applies_congr h, expander_empty, methods_congr hn h]

theorem slotBlock_congr_of_ne {k : Slot} (h : m.SameOutside k.fields m') (hs : s ≠ k) :
    slotBlock m' .empty s = slotBlock m .empty s :=
  slotBlock_congr (h .serviceName k.serviceName_not_mem_fields) fun f hf =>
    h f (Slot.not_mem_fields_of_ne hs hf)

theorem slotBlock_congr_of_interface (h : m.SameOutside interfaceFields m') :
    slotBlock m' .empty s = slotBlock m .empty s :=
  slotBlock_congr (h .serviceName serviceName_not_mem_interfaceFields) fun f hf =>
    h f (Slot.not_mem_interfaceFields hf)

/-- Of the providers, the block of a slot depends on its own one. -/
theorem slotBlock_congr_provider {providers providers' : Providers}
    (h : providers'.get? s.key = providers.get? s.key) :
    slotBlock m providers' s = slotBlock m providers s := by
  rw [slotBlock, slotBlock, Providers.expander, Providers.expander, h]

end Congruence

def methodsBefore (m : Capability) (providers : Providers) (k : Slot) : List Method :=
  k.before.flatMap (slotBlock m providers)

def methodsBehind (m : Capability) (providers : Providers) (k : Slot) : List Method :=
  k.behind.flatMap (slotBlock m providers)

section Around

variable {m m' : Capability} {providers providers' : Providers} {k : Slot}

/-- A contract by one of its slots: what stands before, the block, and what stands behind. -/
theorem synthesize_eq_around (m : Capability) (providers : Providers) (k : Slot) :
    synthesize m providers =
      methodsBefore m providers k ++ slotBlock m providers k ++ methodsBehind m providers k := by
  rw [synthesize, k.all_eq, List.flatMap_append, List.flatMap_cons, ← List.append_assoc]
  rfl

/-- Where the blocks of all other slots are the same, so is what stands around the block of one. -/
theorem around_congr
    (h : ∀ s, s ≠ k → slotBlock m' providers' s = slotBlock m providers s) :
    methodsBefore m' providers' k = methodsBefore m providers k ∧
      methodsBehind m' providers' k = methodsBehind m providers k :=
  ⟨List.flatMap_congr fun s hs => h s (Slot.ne_of_mem_before hs),
    List.flatMap_congr fun s hs => h s (Slot.ne_of_mem_behind hs)⟩

theorem synthesize_congr (h : ∀ s, slotBlock m' providers' s = slotBlock m providers s) :
    synthesize m' providers' = synthesize m providers :=
  List.flatMap_congr fun s _ => h s

/-- A provider for a slot that does not apply is not asked. -/
theorem slotBlock_eq_nil (h : k.applies m = false) :
    slotBlock m providers k = [] := by
  rw [slotBlock, h]
  rfl

end Around

/-- The block of a slot stands between methods that do not depend on the slot's provider, nor on its
fields of the model. The provider of a slot that does not apply makes no difference, nor does one
under any other key, nor what the interfaces are called. -/
theorem synthesize_frame (m : Capability) (providers : Providers) (k : Slot) :
    synthesize m providers =
        methodsBefore m providers k ++
          (if k.applies m then (providers.get? k.key).getD k.methods m else []) ++
          methodsBehind m providers k ∧
      (∀ providers' : Providers, (∀ key : Text, key ≠ k.key →
          providers'.get? key = providers.get? key) →
        methodsBefore m providers' k = methodsBefore m providers k ∧
          methodsBehind m providers' k = methodsBehind m providers k ∧
          (k.applies m = false → synthesize m providers' = synthesize m providers)) ∧
      (∀ providers' : Providers, (∀ s : Slot, providers'.get? s.key = providers.get? s.key) →
        synthesize m providers' = synthesize m providers) ∧
      (∀ m' : Capability, m.SameOutside k.fields m' →
        methodsBefore m' .empty k = methodsBefore m .empty k ∧
          methodsBehind m' .empty k = methodsBehind m .empty k) ∧
      ∀ m' : Capability, m.SameOutside interfaceFields m' → synthesize m' = synthesize m := by
  refine ⟨synthesize_eq_around m providers k, fun providers' hp => ?_, fun providers' hp => ?_,
    fun m' hm => ?_, fun m' hm => ?_⟩
  · -- Keys tell slots apart, so all slots but this one have the same provider.
    have hother (s : Slot) (hs : s ≠ k) : slotBlock m providers' s = slotBlock m providers s :=
      slotBlock_congr_provider (hp s.key fun he => hs (Slot.key_injective (Text.ofString_inj he)))
    obtain ⟨hbefore, hbehind⟩ := around_congr hother
    refine ⟨hbefore, hbehind, fun ha => ?_⟩
    rw [synthesize_eq_around m providers' k, synthesize_eq_around m providers k, hbefore, hbehind,
      slotBlock_eq_nil ha, slotBlock_eq_nil ha]
  · exact synthesize_congr fun s => slotBlock_congr_provider (hp s)
  · exact around_congr fun s hs => slotBlock_congr_of_ne hm hs
  · exact synthesize_congr fun s => slotBlock_congr_of_interface hm

def plainModel : Capability where
  serviceName := "Queue"

def tokenProviders : Providers :=
  ⟨[("token_provider", fun _ => [tokenProvider]), ("other", fun _ => [])], by decide⟩

def tokenProvidersOnly : Providers :=
  ⟨[("token_provider", fun _ => [tokenProvider])], by decide⟩

theorem plainModel_frame :
    let bearing : Capability := { plainModel with usesBearerAuth := true }
    let described : Capability := { plainModel with basePackage := "queue" }
    (plainModel.SameOutside Slot.tokenProvider.fields bearing ∧
        methodsBehind bearing .empty .tokenProvider =
          methodsBehind plainModel .empty .tokenProvider) ∧
      (plainModel.SameOutside interfaceFields described ∧
        synthesize described = synthesize plainModel) ∧
      synthesize plainModel tokenProvidersOnly = synthesize plainModel ∧
      synthesize plainModel tokenProviders = synthesize plainModel tokenProvidersOnly := by
  intro bearing described
  have hbearing : plainModel.SameOutside Slot.tokenProvider.fields bearing := by
    intro f hf
    cases f with
    | usesBearerAuth => exact absurd List.mem_cons_self hf
    | _ => rfl
  have hdescribed : plainModel.SameOutside interfaceFields described := by
    intro f hf
    cases f with
    | basePackage => exact absurd (by decide) hf
    | _ => rfl
  have honly (key : Text) (hk : key ≠ Slot.tokenProvider.key) :
      tokenProvidersOnly.get? key = OrderedMap.get? .empty key := by
    have hb : (key == Text.ofString "token_provider") = false := beq_eq_false_iff_ne.mpr hk
    simp only [tokenProvidersOnly, OrderedMap.get?, OrderedMap.empty, List.lookup_cons, hb]
  have hother (s : Slot) : tokenProviders.get? s.key = tokenProvidersOnly.get? s.key := by
    cases s <;> rfl
  obtain ⟨-, hk, -, hm, hd⟩ := synthesize_frame plainModel .empty .tokenProvider
  obtain ⟨-, -, hs, -, -⟩ := synthesize_frame plainModel tokenProvidersOnly .tokenProvider
  exact ⟨⟨hbearing, (hm bearing hbearing).2⟩, ⟨hdescribed, hd described hdescribed⟩,
    (hk tokenProvidersOnly honly).2.2 rfl, hs tokenProviders hother⟩

end ClientBuilder
