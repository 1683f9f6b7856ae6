import ClientBuilder.Proofs.Synthesis.Blocks
import Mathlib.Data.List.Flatten

namespace ClientBuilder

/-- Everything that a model gives is given by another one as well. -/
structure Capability.Within (m m' : Capability) : Prop where
  serviceName : m.serviceName = m'.serviceName
  endpointProviderType : m.endpointProviderType = m'.endpointProviderType
  authSchemeProviderType : m.authSchemeProviderType = m'.authSchemeProviderType
  serviceConfigType : m.serviceConfigType = none ∨ m.serviceConfigType = some [] ∨
    m.serviceConfigType = m'.serviceConfigType
  clientContextParams : m.clientContextParams.pairs.Sublist m'.clientContextParams.pairs
  customClientContextParams :
    m.customClientContextParams.pairs.Sublist m'.customClientContextParams.pairs
  hasEndpointDiscoveryOperation :
    m.hasEndpointDiscoveryOperation = true → m'.hasEndpointDiscoveryOperation = true
  endpointDiscoveryRequired :
    m.endpointDiscoveryRequired = true → m'.endpointDiscoveryRequired = true
  supportsAccountIdEndpointMode :
    m.supportsAccountIdEndpointMode = true → m'.supportsAccountIdEndpointMode = true
  usesBearerAuth : m.usesBearerAuth = true → m'.usesBearerAuth = true
  hasRequestChecksumCapability :
    m.hasRequestChecksumCapability = true → m'.hasRequestChecksumCapability = true
  hasResponseChecksumCapability :
    m.hasResponseChecksumCapability = true → m'.hasResponseChecksumCapability = true
  supportsSigv4aRegionSet :
    m.supportsSigv4aRegionSet = true → m'.supportsSigv4aRegionSet = true

theorem contextParamSetters_sublist {g g' : ParamGroup} (h : g.pairs.Sublist g'.pairs) :
    (contextParamSetters g).Sublist (contextParamSetters g') :=
  h.map _

theorem isEmpty_eq_false_of_sublist {g g' : ParamGroup} (h : g.pairs.Sublist g'.pairs)
    (hg : g.isEmpty = false) : g'.isEmpty = false := by
  cases hg' : g'.isEmpty with
  | false => rfl
  | true =>
    have hp : g'.pairs = [] := List.isEmpty_iff.mp hg'
    rw [hp, List.sublist_nil] at h
    rw [OrderedMap.isEmpty, h] at hg
    cases hg

namespace Capability.Within

variable {m m' : Capability}

/-- A configuration type that is given is the same in both models. -/
theorem serviceConfigType_eq (h : m.Within m') (hm : m.hasServiceLevelConfig = true) :
    m.serviceConfigType = m'.serviceConfigType := by
  rcases h.serviceConfigType with hn | he | hs
  · rw [hasServiceLevelConfig, hn] at hm
    cases hm
  · rw [hasServiceLevelConfig, he] at hm
    cases hm
  · exact hs

/-- A slot that applies still applies to a model that gives more. -/
theorem applies (h : m.Within m') {s : Slot} (hs : s.applies m = true) : s.applies m' = true := by
  cases s with
  | endpointDiscovery => exact h.hasEndpointDiscoveryOperation hs
  | serviceConfiguration =>
    have hm : m.hasServiceLevelConfig = true := hs
    change m'.hasServiceLevelConfig = true
    rw [hasServiceLevelConfig] at hm ⊢
    rwa [← h.serviceConfigType_eq hs]
  | endpointProvider => rfl
  | authSchemeProvider => rfl
  | clientContextParams =>
    simp only [Slot.applies, Bool.not_eq_true'] at hs ⊢
    exact isEmpty_eq_false_of_sublist h.clientContextParams hs
  | customClientContextParams =>
    simp only [Slot.applies, Bool.not_eq_true'] at hs ⊢
    exact isEmpty_eq_false_of_sublist h.customClientContextParams hs
  | accountIdEndpointMode => exact h.supportsAccountIdEndpointMode hs
  | tokenProvider => exact h.usesBearerAuth hs
  | requestChecksumCalculation => exact h.hasRequestChecksumCapability hs
  | responseChecksumValidation => exact h.hasResponseChecksumCapability hs
  | sigv4aSigningRegionSet => exact h.supportsSigv4aRegionSet hs

/-- The methods of a slot that applies grow with the model. -/
theorem methods_sublist (h : m.Within m') {s : Slot} (hs : s.applies m = true) :
    (s.methods m).Sublist (s.methods m') := by
  cases s with
  | endpointDiscovery =>
    -- The old name of the switch may come in, in front of the new one.
    refine List.Sublist.append ?_ (List.Sublist.refl _)
    by_cases hr : m.endpointDiscoveryRequired = true
    · rw [if_pos hr, if_pos (h.endpointDiscoveryRequired hr)]
    · rw [if_neg hr]
      exact List.nil_sublist _
  | serviceConfiguration =>
    have he := h.serviceConfigType_eq hs
    simp only [Slot.methods, he, List.Sublist.refl]
  | endpointProvider =>
    have he : m.endpointProviderTypeName = m'.endpointProviderTypeName := by
      rw [endpointProviderTypeName, endpointProviderTypeName, h.endpointProviderType,
        h.serviceName]
    simp only [Slot.methods, he, List.Sublist.refl]
  | authSchemeProvider =>
    have he : m.authSchemeProviderTypeName = m'.authSchemeProviderTypeName := by
      rw [authSchemeProviderTypeName, authSchemeProviderTypeName, h.authSchemeProviderType,
        h.serviceName]
    simp only [Slot.methods, he, List.Sublist.refl]
  | clientContextParams => exact contextParamSetters_sublist h.clientContextParams
  | customClientContextParams => exact contextParamSetters_sublist h.customClientContextParams
  | accountIdEndpointMode =>
    have hm : m.supportsAccountIdEndpointMode = true := hs
    have hm' := h.supportsAccountIdEndpointMode hm
    simp only [Slot.methods, hm, hm', List.Sublist.refl]
  | _ => exact List.Sublist.refl _

/-- The block of each slot grows with the model. -/
theorem slotBlock_sublist (h : m.Within m') (s : Slot) :
    (slotBlock m .empty s).Sublist (slotBlock m' .empty s) := by
  by_cases hs : s.applies m = true
  · rw [slotBlock_of_applies hs, slotBlock_of_applies (h.applies hs)]
    exact h.methods_sublist hs
  · rw [slotBlock_of_not_applies (Bool.eq_false_iff.mpr hs)]
    exact List.nil_sublist _

end Capability.Within

/-- The contract of a model that gives more has all methods of the smaller one, as they are and in
the same order. -/
theorem synthesize_sublist_of_within {m m' : Capability} (h : m.Within m') :
    (synthesize m).Sublist (synthesize m') :=
  List.Sublist.flatMap_right Slot.all fun s _ => h.slotBlock_sublist s

def discoveryModel : Capability where
  serviceName := "Example"
  hasEndpointDiscoveryOperation := true
  serviceConfigType := some []
  clientContextParams := .ofList [("UseArnRegion", ⟨"Boolean", []⟩)]

def grownDiscoveryModel : Capability where
  serviceName := "Example"
  hasEndpointDiscoveryOperation := true
  endpointDiscoveryRequired := true
  serviceConfigType := some "ExampleConfiguration"
  clientContextParams := .ofList
    [("Accelerate", ⟨"Boolean", []⟩), ("UseArnRegion", ⟨"Boolean", []⟩), ("Stage", ⟨"String", []⟩)]
  customClientContextParams := .ofList [("cross_region", ⟨"Boolean", []⟩)]
  usesBearerAuth := true
  supportsSigv4aRegionSet := true

theorem discoveryModel_grows : discoveryModel.Within grownDiscoveryModel ∧
    (synthesize discoveryModel).Sublist (synthesize grownDiscoveryModel) := by
  have h : discoveryModel.Within grownDiscoveryModel := by
    refine ⟨rfl, rfl, rfl, Or.inr (Or.inl rfl), ?_, ?_, ?_, ?_, ?_, ?_, ?_, ?_, ?_⟩ <;> decide
  exact ⟨h, synthesize_sublist_of_within h⟩

end ClientBuilder
