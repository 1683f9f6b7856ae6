import ClientBuilder.Proofs.Capability.Written
import ClientBuilder.Proofs.Synthesis.Monotone
import ClientBuilder.Service.Derive

/-!
What a derived model says of its service. Each flag holds exactly if something in the service asks
for it; the order, the names and the repetitions in which the service lists things make no
difference, and operations that come in only add to the contract.
-/

namespace ClientBuilder

open Validation

theorem usesAny_iff (schemes spellings : List Text) :
    usesAny schemes spellings = true ↔ ∃ s ∈ spellings, s ∈ schemes := by
  simp only [usesAny, List.any_eq_true, List.contains_iff_mem]
  constructor
  · rintro ⟨s, hs, hm⟩
    exact ⟨s, hm, hs⟩
  · rintro ⟨s, hm, hs⟩
    exact ⟨s, hs, hm⟩

namespace Needs

/-- A flag that each operation can only raise holds in the end if it held before or some operation
raises it. -/
theorem flag_foldl (flag : Needs → Bool) {asks : Operation → Bool}
    (hstep : ∀ n op, flag (n.add op) = (flag n || asks op)) (ops : List Operation) (n : Needs) :
    flag (ops.foldl add n) = (flag n || ops.any asks) := by
  -- On the operations in turn; what the flag holds so far is the part that changes.
  induction ops generalizing n with
  | nil => rw [List.foldl_nil, List.any_nil, Bool.or_false]
  | cons op r ih => rw [List.foldl_cons, ih, hstep, List.any_cons, Bool.or_assoc]

end Needs

namespace Operation

theorem requestsChecksum_iff (op : Operation) :
    op.requestsChecksum = true ↔
      ∃ c, op.httpChecksum = some c ∧ ∃ a, c.requestAlgorithmMember = some a := by
  simp only [requestsChecksum, Option.any_eq_true, Option.isSome_iff_exists]

theorem validatesChecksum_iff (op : Operation) :
    op.validatesChecksum = true ↔
      ∃ c, op.httpChecksum = some c ∧ ∃ a, c.responseAlgorithms = some a := by
  simp only [validatesChecksum, Option.any_eq_true, Option.isSome_iff_exists]

/-- Two operations ask for the same, whatever the order and number of their schemes. -/
structure SameDemands (op op' : Operation) : Prop where
  auth : ∀ s, s ∈ op.auth ↔ s ∈ op'.auth
  httpChecksum : op.httpChecksum = op'.httpChecksum

end Operation

namespace Service

/-- A scheme is one of the service's own or of those of an operation. -/
def Uses (d : Service) (scheme : Text) : Prop :=
  scheme ∈ d.info.auth ∨ ∃ op ∈ d.operations.values, scheme ∈ op.auth

def capabilityPairs (d : Service) : Pairs :=
  [(.text "service_name", .text d.info.name),
    (.text "descriptive_service_name", .text d.info.descriptiveName),
    (.text "base_package", .text d.info.package),
    (.text "has_endpoint_discovery_operation", .bool d.endpointOperation.isSome),
    (.text "endpoint_discovery_required",
      .bool d.customization.enableEndpointDiscoveryMethodRequired),
    (.text "service_config_type", Capability.nameValue d.customization.serviceConfig),
    (.text "client_context_params", d.clientContextParams.toValue),
    (.text "custom_client_context_params", d.customization.customClientContextParams.toValue),
    (.text "supports_account_id_endpoint_mode",
      .bool (d.endpointBuiltins.contains accountIdEndpointModeBuiltin)),
    (.text "uses_bearer_auth", .bool d.needs.bearer),
    (.text "has_request_checksum_capability", .bool d.needs.requestChecksum),
    (.text "has_response_checksum_capability", .bool d.needs.responseChecksum),
    (.text "supports_sigv4a_region_set", .bool d.needs.sigv4a)]

/-- A model is what the description of models makes of a derivation, and each part of it says what
the service says. -/
structure Derives (d : Service) (m : Capability) : Prop where
  accepted : Capability.decode (.mapping d.capabilityPairs) = .ok m
  serviceName : m.serviceName = d.info.name
  descriptiveServiceName : m.descriptiveServiceName = d.info.descriptiveName
  basePackage : m.basePackage = d.info.package
  serviceConfigType : m.serviceConfigType = d.customization.serviceConfig
  clientContextParams : m.clientContextParams = d.clientContextParams
  customClientContextParams :
    m.customClientContextParams = d.customization.customClientContextParams
  discovery_iff : m.hasEndpointDiscoveryOperation = true ↔ ∃ name, d.endpointOperation = some name
  discoveryRequired :
    m.endpointDiscoveryRequired = d.customization.enableEndpointDiscoveryMethodRequired
  accountId_iff : m.supportsAccountIdEndpointMode = true ↔
    Text.ofString "AWS::Auth::AccountIdEndpointMode" ∈ d.endpointBuiltins
  bearer_iff : m.usesBearerAuth = true ↔ d.Uses "bearer" ∨ d.Uses "smithy.api#httpBearerAuth"
  sigv4a_iff : m.supportsSigv4aRegionSet = true ↔ d.Uses "sigv4a" ∨ d.Uses "aws.auth#sigv4a"
  requestChecksum_iff : m.hasRequestChecksumCapability = true ↔
    ∃ op ∈ d.operations.values, ∃ c, op.httpChecksum = some c ∧
      ∃ a, c.requestAlgorithmMember = some a
  responseChecksum_iff : m.hasResponseChecksumCapability = true ↔
    ∃ op ∈ d.operations.values, ∃ c, op.httpChecksum = some c ∧ ∃ a, c.responseAlgorithms = some a

/-- Two services differ only in the order and names of their operations and in the order and number
of the entries of their lists. -/
structure Relisted (d d' : Service) : Prop where
  name : d.info.name = d'.info.name
  descriptiveName : d.info.descriptiveName = d'.info.descriptiveName
  package : d.info.package = d'.info.package
  auth : ∀ s, s ∈ d.info.auth ↔ s ∈ d'.info.auth
  -- The operation that discovers endpoints may have another name as well.
  endpointOperation : d.endpointOperation.isSome = d'.endpointOperation.isSome
  clientContextParams : d.clientContextParams = d'.clientContextParams
  endpointBuiltins : ∀ b, b ∈ d.endpointBuiltins ↔ b ∈ d'.endpointBuiltins
  customization : d.customization = d'.customization
  operations : ∃ ops, d.operations.values.Perm ops ∧
    List.Forall₂ Operation.SameDemands ops d'.operations.values

/-- A flag that the service or one of its operations can raise by a scheme. -/
theorem uses_iff (d : Service) (spellings : List Text) :
    (usesAny d.info.auth spellings ||
        d.operations.values.any fun op => usesAny op.auth spellings) = true ↔
      ∃ s ∈ spellings, d.Uses s := by
  simp only [Bool.or_eq_true, List.any_eq_true, usesAny_iff, Uses]
  constructor
  · rintro (⟨s, hs, ha⟩ | ⟨op, hop, s, hs, ha⟩)
    · exact ⟨s, hs, Or.inl ha⟩
    · exact ⟨s, hs, Or.inr ⟨op, hop, ha⟩⟩
  · rintro ⟨s, hs, ha | ⟨op, hop, ha⟩⟩
    · exact Or.inl ⟨s, hs, ha⟩
    · exact Or.inr ⟨op, hop, s, hs, ha⟩

/-- Bearer authentication is needed where some scheme of the service asks for it. -/
theorem bearer_iff (d : Service) : d.needs.bearer = true ↔ ∃ s ∈ bearerSchemes, d.Uses s := by
  rw [needs, Needs.flag_foldl Needs.bearer fun _ _ => rfl]
  exact d.uses_iff bearerSchemes

theorem sigv4a_iff (d : Service) : d.needs.sigv4a = true ↔ ∃ s ∈ sigv4aSchemes, d.Uses s := by
  rw [needs, Needs.flag_foldl Needs.sigv4a fun _ _ => rfl]
  exact d.uses_iff sigv4aSchemes

theorem requestChecksum_iff (d : Service) :
    d.needs.requestChecksum = true ↔ ∃ op ∈ d.operations.values, op.requestsChecksum = true := by
  rw [needs, Needs.flag_foldl Needs.requestChecksum fun _ _ => rfl]
  exact List.any_eq_true

theorem responseChecksum_iff (d : Service) :
    d.needs.responseChecksum = true ↔ ∃ op ∈ d.operations.values, op.validatesChecksum = true := by
  rw [needs, Needs.flag_foldl Needs.responseChecksum fun _ _ => rfl]
  exact List.any_eq_true

def derivedFields : List Capability.Field :=
  -- The other fields keep their default values.
  [.serviceName, .descriptiveServiceName, .basePackage, .hasEndpointDiscoveryOperation,
    .endpointDiscoveryRequired, .serviceConfigType, .clientContextParams,
    .customClientContextParams, .supportsAccountIdEndpointMode, .usesBearerAuth,
    .hasRequestChecksumCapability, .hasResponseChecksumCapability, .supportsSigv4aRegionSet]

/-- A derivation says of each of its fields what the model holds in it. -/
theorem capabilityPairs_eq (d : Service) :
    d.capabilityPairs = derivedFields.map fun f => (.text f.name, d.toCapability.fieldValue f) :=
  rfl

/-- What a derivation says is a way to write its model. -/
theorem writtenIn_capabilityPairs (d : Service) : d.toCapability.WrittenIn d.capabilityPairs where
  known p hp := by
    rw [capabilityPairs_eq] at hp
    obtain ⟨f, -, rfl⟩ := List.mem_map.mp hp
    exact Or.inl ⟨f, rfl⟩
  given f := by
    by_cases hf : f ∈ derivedFields
    · left
      rw [capabilityPairs_eq]
      exact List.mem_map_of_mem hf
    · -- A derivation passes over five names of types, and these have no value.
      right
      cases f with
      | baseBuilderInterface => rfl
      | syncBuilderInterface => rfl
      | asyncBuilderInterface => rfl
      | endpointProviderType => rfl
      | authSchemeProviderType => rfl
      | _ => exact absurd (by decide) hf

theorem derives_toCapability (d : Service) : d.Derives d.toCapability where
  accepted := d.writtenIn_capabilityPairs.decode_eq
  serviceName := rfl
  descriptiveServiceName := rfl
  basePackage := rfl
  serviceConfigType := rfl
  clientContextParams := rfl
  customClientContextParams := rfl
  discovery_iff := Option.isSome_iff_exists
  discoveryRequired := rfl
  accountId_iff := List.contains_iff_mem
  bearer_iff := by
    rw [toCapability, bearer_iff]
    simp only [bearerSchemes, List.mem_cons, List.not_mem_nil, or_false, exists_eq_or_imp,
      exists_eq_left]
  sigv4a_iff := by
    rw [toCapability, sigv4a_iff]
    simp only [sigv4aSchemes, List.mem_cons, List.not_mem_nil, or_false, exists_eq_or_imp,
      exists_eq_left]
  requestChecksum_iff := by
    simp only [toCapability, requestChecksum_iff, Operation.requestsChecksum_iff]
  responseChecksum_iff := by
    simp only [toCapability, responseChecksum_iff, Operation.validatesChecksum_iff]

theorem exists_congr_of_sameDemands {ops ops' : List Operation} {P : Operation → Prop}
    (hP : ∀ op op', op.SameDemands op' → (P op ↔ P op'))
    (hf : List.Forall₂ Operation.SameDemands ops ops') :
    (∃ op ∈ ops, P op) ↔ ∃ op ∈ ops', P op := by
  induction hf with
  | nil => exact Iff.rfl
  | cons hop _ ih => simp only [List.mem_cons, exists_eq_or_imp, hP _ _ hop, ih]

namespace Relisted

variable {d d' : Service}

/-- What some operation of one service asks for, some operation of the other one asks for. -/
theorem exists_operation_iff (h : d.Relisted d') {P : Operation → Prop}
    (hP : ∀ op op', op.SameDemands op' → (P op ↔ P op')) :
    (∃ op ∈ d.operations.values, P op) ↔ ∃ op ∈ d'.operations.values, P op := by
  obtain ⟨ops, hp, hf⟩ := h.operations
  rw [← exists_congr_of_sameDemands hP hf]
  simp only [hp.mem_iff]

theorem uses_iff (h : d.Relisted d') (s : Text) : d.Uses s ↔ d'.Uses s :=
  or_congr (h.auth s) (h.exists_operation_iff fun _ _ hd => hd.auth s)

theorem needs_eq (h : d.Relisted d') : d.needs = d'.needs := by
  -- Each flag is compared by what it says: the two passes meet the operations in other orders.
  have hb : d.needs.bearer = d'.needs.bearer := by
    rw [Bool.eq_iff_iff, bearer_iff, bearer_iff]
    simp only [h.uses_iff]
  have hs : d.needs.sigv4a = d'.needs.sigv4a := by
    rw [Bool.eq_iff_iff, sigv4a_iff, sigv4a_iff]
    simp only [h.uses_iff]
  have hq : d.needs.requestChecksum = d'.needs.requestChecksum := by
    rw [Bool.eq_iff_iff, requestChecksum_iff, requestChecksum_iff]
    refine h.exists_operation_iff fun op op' hd => ?_
    rw [Operation.requestsChecksum, Operation.requestsChecksum, hd.httpChecksum]
  have hr : d.needs.responseChecksum = d'.needs.responseChecksum := by
    rw [Bool.eq_iff_iff, responseChecksum_iff, responseChecksum_iff]
    refine h.exists_operation_iff fun op op' hd => ?_
    rw [Operation.validatesChecksum, Operation.validatesChecksum, hd.httpChecksum]
  calc d.needs = ⟨d.needs.bearer, d.needs.sigv4a, d.needs.requestChecksum,
        d.needs.responseChecksum⟩ := rfl
    _ = d'.needs := by rw [hb, hs, hq, hr]

/-- Relisting a service changes nothing about its model. -/
theorem toCapability_eq (h : d.Relisted d') : d.toCapability = d'.toCapability := by
  have ha : d.endpointBuiltins.contains accountIdEndpointModeBuiltin =
      d'.endpointBuiltins.contains accountIdEndpointModeBuiltin := by
    rw [Bool.eq_iff_iff, List.contains_iff_mem, List.contains_iff_mem, h.endpointBuiltins]
  rw [toCapability, toCapability, h.name, h.descriptiveName, h.package, h.endpointOperation,
    h.customization, h.clientContextParams, ha, h.needs_eq]

end Relisted

/-- Operations that come in only raise flags. -/
theorem within_of_operations (d : Service) {operations : OrderedMap Operation}
    (h : ∀ op ∈ d.operations.values, op ∈ operations.values) :
    d.toCapability.Within { d with operations := operations }.toCapability := by
  have hop {P : Operation → Prop} :
      (∃ op ∈ d.operations.values, P op) → ∃ op ∈ operations.values, P op := by
    rintro ⟨op, hm, hp⟩
    exact ⟨op, h op hm, hp⟩
  have huse {s : Text} (hu : d.Uses s) : { d with operations := operations }.Uses s :=
    hu.imp_right hop
  -- The four last flags look at the operations, everything else only at the service itself.
  exact {
    serviceName := rfl
    endpointProviderType := rfl
    authSchemeProviderType := rfl
    serviceConfigType := Or.inr (Or.inr rfl)
    clientContextParams := List.Sublist.refl _
    customClientContextParams := List.Sublist.refl _
    hasEndpointDiscoveryOperation := id
    endpointDiscoveryRequired := id
    supportsAccountIdEndpointMode := id
    usesBearerAuth := by
      rw [toCapability, toCapability, bearer_iff, bearer_iff]
      rintro ⟨s, hs, hu⟩
      exact ⟨s, hs, huse hu⟩
    hasRequestChecksumCapability := by
      rw [toCapability, toCapability, requestChecksum_iff, requestChecksum_iff]
      exact hop
    hasResponseChecksumCapability := by
      rw [toCapability, toCapability, responseChecksum_iff, responseChecksum_iff]
      exact hop
    supportsSigv4aRegionSet := by
      rw [toCapability, toCapability, sigv4a_iff, sigv4a_iff]
      rintro ⟨s, hs, hu⟩
      exact ⟨s, hs, huse hu⟩ }

/-- A derivation is accepted and exact; services that list the same in different ways have the same
model and the same contract, and operations that come in only add methods to the contract. -/
theorem toCapability_exact (d : Service) :
    d.Derives d.toCapability ∧
      (∀ d', d.Relisted d' → d'.toCapability = d.toCapability ∧
        synthesizeContract d'.toCapability = synthesizeContract d.toCapability) ∧
      ∀ operations : OrderedMap Operation,
        (∀ op ∈ d.operations.values, op ∈ operations.values) →
          (synthesize d.toCapability).Sublist
            (synthesize { d with operations := operations }.toCapability) := by
  refine ⟨d.derives_toCapability, fun d' h => ?_, fun operations h => ?_⟩
  · rw [h.toCapability_eq]
    exact ⟨rfl, rfl⟩
  · exact List.Sublist.flatMap_right Slot.all fun s _ =>
      (d.within_of_operations h).slotBlock_sublist s

def storeService : Service where
  info := ⟨"Store", [], [], ["aws.auth#sigv4"]⟩
  endpointOperation := some "Describe"
  clientContextParams := .ofList [("UseArnRegion", ⟨"Boolean", []⟩)]
  endpointBuiltins := ["AWS::Region", "AWS::Auth::AccountIdEndpointMode"]
  customization := {}
  operations := .ofList
    [("Describe", ⟨["aws.auth#sigv4", "bearer"], none⟩),
      ("Put", ⟨[], some ⟨some "algorithm", none⟩⟩)]

def relistedStoreService : Service where
  info := ⟨"Store", [], [], ["aws.auth#sigv4", "aws.auth#sigv4"]⟩
  endpointOperation := some "DescribeStore"
  clientContextParams := .ofList [("UseArnRegion", ⟨"Boolean", []⟩)]
  endpointBuiltins := ["AWS::Auth::AccountIdEndpointMode", "AWS::Region", "AWS::Region"]
  customization := {}
  operations := .ofList
    [("PutStore", ⟨[], some ⟨some "algorithm", none⟩⟩),
      ("DescribeStore", ⟨["bearer", "aws.auth#sigv4", "bearer"], none⟩)]

def moreOperations : OrderedMap Operation :=
  storeService.operations.insert "Sign" ⟨["sigv4a"], none⟩

theorem storeService_relisted :
    storeService.Relisted relistedStoreService ∧
      relistedStoreService.toCapability = storeService.toCapability ∧
      storeService.toCapability.usesBearerAuth = true ∧
      (∀ op ∈ storeService.operations.values, op ∈ moreOperations.values) ∧
      (synthesize storeService.toCapability).Sublist
        (synthesize { storeService with operations := moreOperations }.toCapability) := by
  have hmem {l l' : List Text} (h : l.all l'.contains = true) (h' : l'.all l.contains = true)
      (s : Text) : s ∈ l ↔ s ∈ l' := by
    simp only [List.all_eq_true, List.contains_iff_mem] at h h'
    exact ⟨h s, h' s⟩
  have h : storeService.Relisted relistedStoreService := by
    refine ⟨rfl, rfl, rfl, hmem (by decide) (by decide), rfl, rfl, hmem (by decide) (by decide),
      rfl, _, List.Perm.swap _ _ _, ?_⟩
    exact .cons ⟨fun _ => Iff.rfl, rfl⟩ (.cons ⟨hmem (by decide) (by decide), rfl⟩ .nil)
  have hm : ∀ op ∈ storeService.operations.values, op ∈ moreOperations.values := by decide
  obtain ⟨hd, hr, hs⟩ := toCapability_exact storeService
  refine ⟨h, (hr _ h).1, hd.bearer_iff.mpr (Or.inl (Or.inr ?_)), hm, hs _ hm⟩
  exact ⟨_, List.mem_cons_self, by decide⟩

end Service

end ClientBuilder
