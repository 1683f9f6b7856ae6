import ClientBuilder.Proofs.Capability.Written

namespace ClientBuilder

open Validation

namespace Validation.Checked

variable {α β : Type}

theorem map_eq_ok_iff {f : α → β} {x : Checked α} {b : β} :
    f <$> x = .ok b ↔ ∃ a, x = .ok a ∧ f a = b := by
  cases x with
  | ok a =>
    have hm : f <$> Checked.ok a = Checked.ok (f a) := rfl
    simp only [hm, ok.injEq, exists_eq_left']
  | refused i is =>
    have hm : f <$> (Checked.refused i is : Checked α) = Checked.refused i is := rfl
    simp only [hm, reduceCtorEq, false_and, exists_false]

theorem seq_eq_ok_iff {f : Checked (α → β)} {x : Checked α} {b : β} :
    f <*> x = .ok b ↔ ∃ g, f = .ok g ∧ ∃ a, x = .ok a ∧ g a = b := by
  have hs : f <*> x = apply f x := rfl
  rw [hs]
  cases f <;> cases x <;>
    simp only [apply, ok.injEq, reduceCtorEq, exists_eq_left', false_and, exists_false, and_false]

theorem within_eq_ok_iff {step : Step} {x : Checked α} {a : α} :
    x.within step = .ok a ↔ x = .ok a := by
  cases x with
  | ok b => rfl
  | refused i is => simp only [within, reduceCtorEq]

/-- A result with further issues stands only if there are none. -/
theorem withIssues_eq_ok_iff {x : Checked α} {more : List Issue} {a : α} :
    x.withIssues more = .ok a ↔ x = .ok a ∧ more = [] := by
  cases more with
  | nil => simp only [withIssues, and_true]
  | cons j js => cases x <;> simp only [withIssues, reduceCtorEq, and_false]

end Validation.Checked

namespace Capability

inductive Content where
  | text
  | name
  | flag
  | group

namespace Content

def Carrier : Content → Type
  | text => Text
  | name => Option Text
  | flag => Bool
  | group => ParamGroup

def decoder : (c : Content) → Decoder c.Carrier
  | text => Validation.text
  | name => nullable Validation.text
  | flag => Validation.flag
  | group => mappingOf ContextParam.decode

def absent : (c : Content) → c.Carrier
  | text => ([] : Text)
  | name => (none : Option Text)
  | flag => false
  | group => OrderedMap.empty

end Content

def Field.content : Field → Content
  | serviceName => .text
  | descriptiveServiceName => .text
  | basePackage => .text
  | baseBuilderInterface => .name
  | syncBuilderInterface => .name
  | asyncBuilderInterface => .name
  | hasEndpointDiscoveryOperation => .flag
  | endpointDiscoveryRequired => .flag
  | serviceConfigType => .name
  | endpointProviderType => .name
  | authSchemeProviderType => .name
  | clientContextParams => .group
  | customClientContextParams => .group
  | supportsAccountIdEndpointMode => .flag
  | usesBearerAuth => .flag
  | hasRequestChecksumCapability => .flag
  | hasResponseChecksumCapability => .flag
  | supportsSigv4aRegionSet => .flag

def held (m : Capability) : (f : Field) → f.content.Carrier
  | .serviceName => m.serviceName
  | .descriptiveServiceName => m.descriptiveServiceName
  | .basePackage => m.basePackage
  | .baseBuilderInterface => m.baseBuilderInterface
  | .syncBuilderInterface => m.syncBuilderInterface
  | .asyncBuilderInterface => m.asyncBuilderInterface
  | .hasEndpointDiscoveryOperation => m.hasEndpointDiscoveryOperation
  | .endpointDiscoveryRequired => m.endpointDiscoveryRequired
  | .serviceConfigType => m.serviceConfigType
  | .endpointProviderType => m.endpointProviderType
  | .authSchemeProviderType => m.authSchemeProviderType
  | .clientContextParams => m.clientContextParams
  | .customClientContextParams => m.customClientContextParams
  | .supportsAccountIdEndpointMode => m.supportsAccountIdEndpointMode
  | .usesBearerAuth => m.usesBearerAuth
  | .hasRequestChecksumCapability => m.hasRequestChecksumCapability
  | .hasResponseChecksumCapability => m.hasResponseChecksumCapability
  | .supportsSigv4aRegionSet => m.supportsSigv4aRegionSet

def ofHeld (a : (f : Field) → f.content.Carrier) : Capability where
  serviceName := a .serviceName
  descriptiveServiceName := a .descriptiveServiceName
  basePackage := a .basePackage
  baseBuilderInterface := a .baseBuilderInterface
  syncBuilderInterface := a .syncBuilderInterface
  asyncBuilderInterface := a .asyncBuilderInterface
  hasEndpointDiscoveryOperation := a .hasEndpointDiscoveryOperation
  endpointDiscoveryRequired := a .endpointDiscoveryRequired
  serviceConfigType := a .serviceConfigType
  endpointProviderType := a .endpointProviderType
  authSchemeProviderType := a .authSchemeProviderType
  clientContextParams := a .clientContextParams
  customClientContextParams := a .customClientContextParams
  supportsAccountIdEndpointMode := a .supportsAccountIdEndpointMode
  usesBearerAuth := a .usesBearerAuth
  hasRequestChecksumCapability := a .hasRequestChecksumCapability
  hasResponseChecksumCapability := a .hasResponseChecksumCapability
  supportsSigv4aRegionSet := a .supportsSigv4aRegionSet

/-- A model of given contents holds them. -/
theorem held_ofHeld (a : (f : Field) → f.content.Carrier) (f : Field) :
    (ofHeld a).held f = a f := by
  cases f <;> rfl

theorem held_default (f : Field) : ({} : Capability).held f = f.content.absent := by
  cases f <;> rfl

def part (pairs : Pairs) (f : Field) : Checked f.content.Carrier :=
  optional f.spellings f.content.absent f.content.decoder pairs

/-- A mapping is read field by field. -/
theorem fields_eq_ok_iff {pairs : Pairs} {m : Capability} :
    fields pairs = .ok m ↔ ∀ f : Field, part pairs f = .ok (m.held f) := by
  -- The parts are put together from the left, so the first one lies innermost.
  simp only [fields, Checked.seq_eq_ok_iff, Checked.map_eq_ok_iff]
  constructor
  · rintro ⟨_, ⟨_, ⟨_, ⟨_, ⟨_, ⟨_, ⟨_, ⟨_, ⟨_, ⟨_, ⟨_, ⟨_, ⟨_, ⟨_, ⟨_, ⟨_, ⟨_, ⟨_, h₁, rfl⟩,
      _, h₂, rfl⟩, _, h₃, rfl⟩, _, h₄, rfl⟩, _, h₅, rfl⟩, _, h₆, rfl⟩, _, h₇, rfl⟩, _, h₈, rfl⟩,
      _, h₉, rfl⟩, _, h₁₀, rfl⟩, _, h₁₁, rfl⟩, _, h₁₂, rfl⟩, _, h₁₃, rfl⟩, _, h₁₄, rfl⟩,
      _, h₁₅, rfl⟩, _, h₁₆, rfl⟩, _, h₁₇, rfl⟩, _, h₁₈, rfl⟩ f
    cases f with
    | serviceName => exact h₁
    | descriptiveServiceName => exact h₂
    | basePackage => exact h₃
    | baseBuilderInterface => exact h₄
    | syncBuilderInterface => exact h₅
    | asyncBuilderInterface => exact h₆
    | hasEndpointDiscoveryOperation => exact h₇
    | endpointDiscoveryRequired => exact h₈
    | serviceConfigType => exact h₉
    | endpointProviderType => exact h₁₀
    | authSchemeProviderType => exact h₁₁
    | clientContextParams => exact h₁₂
    | customClientContextParams => exact h₁₃
    | supportsAccountIdEndpointMode => exact h₁₄
    | usesBearerAuth => exact h₁₅
    | hasRequestChecksumCapability => exact h₁₆
    | hasResponseChecksumCapability => exact h₁₇
    | supportsSigv4aRegionSet => exact h₁₈
  · intro h
    exact ⟨_, ⟨_, ⟨_, ⟨_, ⟨_, ⟨_, ⟨_, ⟨_, ⟨_, ⟨_, ⟨_, ⟨_, ⟨_, ⟨_, ⟨_, ⟨_, ⟨_, ⟨_,
      h .serviceName, rfl⟩, _, h .descriptiveServiceName, rfl⟩, _, h .basePackage, rfl⟩,
      _, h .baseBuilderInterface, rfl⟩, _, h .syncBuilderInterface, rfl⟩,
      _, h .asyncBuilderInterface, rfl⟩, _, h .hasEndpointDiscoveryOperation, rfl⟩,
      _, h .endpointDiscoveryRequired, rfl⟩, _, h .serviceConfigType, rfl⟩,
      _, h .endpointProviderType, rfl⟩, _, h .authSchemeProviderType, rfl⟩,
      _, h .clientContextParams, rfl⟩, _, h .customClientContextParams, rfl⟩,
      _, h .supportsAccountIdEndpointMode, rfl⟩, _, h .usesBearerAuth, rfl⟩,
      _, h .hasRequestChecksumCapability, rfl⟩, _, h .hasResponseChecksumCapability, rfl⟩,
      _, h .supportsSigv4aRegionSet, rfl⟩

/-- A key is used if some field is found under it. -/
theorem mem_usedKeys_iff {pairs : Pairs} {s : Text} :
    s ∈ usedKeys pairs ↔
      ∃ (f : Field) (p : String × Value),
        given? pairs f.spellings = some p ∧ .ofString p.1 = s := by
  simp only [usedKeys, List.mem_filterMap, Option.map_eq_some_iff]
  constructor
  · rintro ⟨f, -, p, hp, hs⟩
    exact ⟨f, p, hp, hs⟩
  · rintro ⟨f, p, hp, hs⟩
    exact ⟨f, f.mem_all, p, hp, hs⟩

/-- No key is at issue iff each of them is one under which a field was found. -/
theorem keyIssues_eq_nil_iff {pairs : Pairs} :
    keyIssues pairs = [] ↔ ∀ p ∈ pairs, ∃ s, p.1.asText? = some s ∧ s ∈ usedKeys pairs := by
  rw [keyIssues, List.filterMap_eq_nil_iff]
  refine forall₂_congr fun p _ => ?_
  cases hp : p.1.asText? with
  | none => simp only [keyIssue?, hp, reduceCtorEq, false_and, exists_false]
  | some s =>
    simp only [keyIssue?, hp, ite_eq_left_iff, reduceCtorEq, imp_false, not_not,
      List.contains_iff_mem, Option.some.injEq, exists_eq_left']

/-- The spelling that a field is found under leads to the value found. -/
theorem lookup_of_given? {pairs : Pairs} {spellings : List String} {p : String × Value}
    (h : given? pairs spellings = some p) : Value.lookup pairs p.1 = some p.2 := by
  obtain ⟨s, -, hs⟩ := List.exists_of_findSome?_eq_some h
  obtain ⟨v, hv, rfl⟩ := Option.map_eq_some_iff.mp hs
  exact hv

/-- Where no key is at issue, a field stands under no more than the one spelling under which it is
found. -/
theorem given?_eq_some_iff {pairs : Pairs} (hk : keyIssues pairs = []) {f : Field} {s : String}
    {v : Value} :
    given? pairs f.spellings = some (s, v) ↔ s ∈ f.spellings ∧ Value.lookup pairs s = some v := by
  constructor
  · intro h
    exact ⟨(mem_of_given? h).1, lookup_of_given? h⟩
  · rintro ⟨hs, hv⟩
    obtain ⟨t, ht, hu⟩ := keyIssues_eq_nil_iff.mp hk _ (Value.mem_of_lookup hv)
    obtain rfl : .ofString s = t := Option.some.inj ht
    obtain ⟨g, p, hg, he⟩ := mem_usedKeys_iff.mp hu
    have hps : p.1 = s := Text.ofString_inj he
    -- The key is used by some field, and no other field has this spelling.
    have hfg : g = f := eq_of_mem_spellings (hps ▸ (mem_of_given? hg).1) hs
    have hp : p.2 = v := Option.some.inj (by rw [← lookup_of_given? hg, hps, hv])
    rw [← hfg, hg, ← hps, ← hp]

theorem isBrokenKey_eq_false_of_mem {pairs : Pairs} {p : Value × Value}
    (hk : keyIssues pairs = []) (hp : p ∈ pairs) : isBrokenKey p.1 = false := by
  obtain ⟨s, hs, hu⟩ := keyIssues_eq_nil_iff.mp hk p hp
  obtain ⟨f, q, -, rfl⟩ := mem_usedKeys_iff.mp hu
  cases hv : p.1 with
  | text t =>
    rw [hv] at hs
    obtain rfl : t = .ofString q.1 := Option.some.inj hs
    rw [isBrokenKey, Text.isWhole_ofString]
    rfl
  | _ => rfl

/-- A mapping is read as a model iff its configuration flag agrees and, besides the flag, each field
is read as the model has it and no key is at issue. -/
theorem decode_eq_ok_iff {pairs : Pairs} {m : Capability} :
    decode (.mapping pairs) = .ok m ↔
      levelFlagAgrees pairs = true ∧ (∀ f, part (withoutLevelFlag pairs) f = .ok (m.held f)) ∧
        keyIssues (withoutLevelFlag pairs) = [] := by
  rw [← fields_eq_ok_iff]
  by_cases ha : levelFlagAgrees pairs = true
  · by_cases hk : keyIssues (withoutLevelFlag pairs) = []
    · have hb : ((withoutLevelFlag pairs).any fun p => isBrokenKey p.1) = false := by
        rw [List.any_eq_false]
        intro p hp
        rw [isBrokenKey_eq_false_of_mem hk hp]
        exact Bool.false_ne_true
      simp only [decode, record, ha, hb, hk, if_true, Bool.false_eq_true, if_false,
        Checked.withIssues_eq_ok_iff, and_true, true_and]
    · have hn : decode (.mapping pairs) ≠ .ok m := by
        intro hd
        simp only [decode, record, ha, if_true] at hd
        split at hd
        · cases hd
        · exact hk (Checked.withIssues_eq_ok_iff.mp hd).2
      simp only [hn, hk, and_false]
  · have hn : decode (.mapping pairs) = .fail .levelFlagDisagrees .mapping := by
      simp only [decode, record, if_neg ha]
    simp only [hn, Checked.fail, reduceCtorEq, ha, false_and]

end Capability

end ClientBuilder
