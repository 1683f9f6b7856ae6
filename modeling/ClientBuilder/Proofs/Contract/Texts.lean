import ClientBuilder.Proofs.Json.Strings
import ClientBuilder.Synthesis
import Mathlib.Data.List.Chain

namespace ClientBuilder

/-! ### The texts of a contract -/

def Parameter.mapTexts (f : Text → Text) (p : Parameter) : Parameter :=
  ⟨f p.name, f p.type⟩

def Parameter.texts (p : Parameter) : List Text :=
  [p.name, p.type]

def Method.mapTexts (f : Text → Text) (m : Method) : Method :=
  { m with
    name := f m.name
    parameters := m.parameters.map (Parameter.mapTexts f)
    documentation := f m.documentation
    body := m.body.map f
    replacedBy := m.replacedBy.map f }

def Method.texts (m : Method) : List Text :=
  [m.name, m.documentation] ++ m.body.toList ++ m.replacedBy.toList
    ++ m.parameters.flatMap Parameter.texts

def Contract.mapTexts (f : Text → Text) (c : Contract) : Contract where
  interfaceName := f c.interfaceName
  package := f c.package
  typeVariables := c.typeVariables.map f
  superInterface := f c.superInterface
  annotations := c.annotations.map f
  documentation := f c.documentation
  methods := c.methods.map (Method.mapTexts f)

def Contract.texts (c : Contract) : List Text :=
  [c.interfaceName, c.package, c.superInterface, c.documentation] ++ c.typeVariables
    ++ c.annotations ++ c.methods.flatMap Method.texts

/-- A contract with the halves of characters paired in all its texts. -/
def Contract.paired (c : Contract) : Contract :=
  c.mapTexts Text.paired

theorem map_eq_self_iff {α : Type} {f : α → α} {l : List α} : l.map f = l ↔ ∀ x ∈ l, f x = x := by
  have h := List.map_inj_left (l := l) (f := f) (g := id)
  rwa [List.map_id] at h

theorem Parameter.mapTexts_eq_self_iff {f : Text → Text} {p : Parameter} :
    p.mapTexts f = p ↔ ∀ t ∈ p.texts, f t = t := by
  obtain ⟨name, type⟩ := p
  simp [mapTexts, texts]

theorem Method.mapTexts_eq_self_iff {f : Text → Text} {m : Method} :
    m.mapTexts f = m ↔ ∀ t ∈ m.texts, f t = t := by
  obtain ⟨name, parameters, policy, documentation, self, body, replacedBy⟩ := m
  have hparameters : parameters.map (Parameter.mapTexts f) = parameters ↔
      ∀ t ∈ parameters.flatMap Parameter.texts, f t = t := by
    simp only [map_eq_self_iff, Parameter.mapTexts_eq_self_iff, List.forall_mem_flatMap]
  have hoption (x : Option Text) : x.map f = x ↔ ∀ t ∈ x.toList, f t = t := by
    cases x <;> simp
  simp only [mapTexts, mk.injEq, texts, List.forall_mem_append, hparameters, hoption,
    List.forall_mem_cons, List.not_mem_nil, true_and]
  tauto

theorem Contract.mapTexts_eq_self_iff {f : Text → Text} {c : Contract} :
    c.mapTexts f = c ↔ ∀ t ∈ c.texts, f t = t := by
  obtain ⟨interfaceName, package, typeVariables, superInterface, annotations, documentation,
    methods⟩ := c
  have hmethods : methods.map (Method.mapTexts f) = methods ↔
      ∀ t ∈ methods.flatMap Method.texts, f t = t := by
    simp only [map_eq_self_iff, Method.mapTexts_eq_self_iff, List.forall_mem_flatMap]
  simp only [mapTexts, mk.injEq, texts, List.forall_mem_append, hmethods, map_eq_self_iff,
    List.forall_mem_cons, List.not_mem_nil]
  tauto

/-- Pairing keeps a contract just where none of its texts has two halves to pair. -/
theorem Contract.paired_eq_self_iff {c : Contract} :
    c.paired = c ↔ ∀ t ∈ c.texts, t.HasNoPair := by
  simp only [paired, mapTexts_eq_self_iff, Text.paired_eq_self_iff]

/-! ### Models without pairs -/

namespace Text

theorem hasNoPair_of_isWhole {t : Text} (h : t.isWhole = true) : t.HasNoPair :=
  paired_eq_self_iff.mp (paired_of_isWhole h)

theorem hasNoPair_nil : HasNoPair [] :=
  .nil

theorem hasNoPair_ofString (s : String) : (ofString s).HasNoPair :=
  hasNoPair_of_isWhole (isWhole_ofString s)

/-- A text that starts with a character can follow any other one. -/
theorem HasNoPair.append {s t : Text} (hs : s.HasNoPair) (ht : t.HasNoPair)
    (h : ∀ d ∈ t.head?, d.isChar = true) : (s ++ t).HasNoPair := by
  refine List.IsChain.append hs ht ?_
  intro c _ d hd
  cases d with
  | char d => cases c <;> rfl
  | surrogate k => exact absurd (h _ hd) Bool.false_ne_true

/-- Text without surrogates brings no half of a character along. -/
theorem HasNoPair.append_string {t : Text} (h : t.HasNoPair) (s : String) :
    (t ++ ofString s).HasNoPair := by
  refine h.append (hasNoPair_ofString s) ?_
  intro d hd
  obtain ⟨x, -, rfl⟩ := List.mem_map.mp (List.mem_of_mem_head? hd)
  rfl

theorem HasNoPair.string_append {t : Text} (h : t.HasNoPair) (s : String) :
    (ofString s ++ t).HasNoPair := by
  refine List.IsChain.append (hasNoPair_ofString s) h ?_
  intro c hc d _
  obtain ⟨x, -, rfl⟩ := List.mem_map.mp (List.mem_of_mem_getLast? hc)
  rfl

end Text

/-- The texts that a contract is made of. The names of parameters are left out: only their letters
and digits count. -/
def Capability.texts (m : Capability) : List Text :=
  [m.serviceName, m.descriptiveServiceName, m.basePackage] ++ m.baseBuilderInterface.toList
    ++ m.syncBuilderInterface.toList ++ m.asyncBuilderInterface.toList
    ++ m.serviceConfigType.toList ++ m.endpointProviderType.toList
    ++ m.authSchemeProviderType.toList
    ++ m.declarations.flatMap fun p => [p.2.type, p.2.documentation]

theorem hasNoPair_givenOr {name : Option Text} {other : Text}
    (hname : ∀ t ∈ name.toList, t.HasNoPair) (hother : other.HasNoPair) :
    (givenOr name other).HasNoPair := by
  cases name with
  | none => exact hother
  | some s =>
    rw [givenOr]
    split
    · exact hother
    · exact hname s (List.mem_singleton_self s)

/-- A name that is not given is made from the service's name and some letters. -/
theorem hasNoPair_typeName {m : Capability} (h : ∀ t ∈ m.texts, t.HasNoPair) {name : Option Text}
    (hn : ∀ t ∈ name.toList, t ∈ m.texts) (ending : String) :
    (givenOr name (m.serviceName ++ ending)).HasNoPair := by
  have hservice : m.serviceName.HasNoPair := h _ (by simp [Capability.texts])
  exact hasNoPair_givenOr (fun t ht => h t (hn t ht)) (hservice.append_string ending)

theorem hasNoPair_link {target : Text} (h : target.HasNoPair) : (link target).HasNoPair :=
  (h.string_append _).append_string _

theorem hasNoPair_append_link {t target : Text} (h : t.HasNoPair) (ht : target.HasNoPair) :
    (t ++ link target).HasNoPair := by
  refine h.append (hasNoPair_link ht) ?_
  rintro d ⟨⟩
  rfl

theorem hasNoPair_texts_throwingSetter (name : String) {type documentation : Text}
    (ht : type.HasNoPair) (hd : documentation.HasNoPair) :
    ∀ t ∈ (throwingSetter name type documentation).texts, t.HasNoPair := by
  have hn : (name : Text).HasNoPair := Text.hasNoPair_ofString name
  have hbody : throwStatement.HasNoPair := Text.hasNoPair_ofString _
  simp [throwingSetter, Method.texts, Parameter.texts, hn, ht, hd, hbody]

theorem hasNoPair_texts_contextParamSetter (name : Text) {p : ContextParam}
    (ht : p.type.HasNoPair) (hd : p.documentation.HasNoPair) :
    ∀ t ∈ (contextParamSetter name p).texts, t.HasNoPair := by
  have hn : (Setter.setterName name).HasNoPair :=
    Text.hasNoPair_of_isWhole (Text.isWhole_ofChars _)
  simp [contextParamSetter, Method.texts, Parameter.texts, hn, ht, hd]

theorem hasNoPair_providerDocumentation {type : Text} (h : type.HasNoPair) (purpose : String) :
    (providerDocumentation type purpose).HasNoPair := by
  have hlink : ("Set the " ++ link type : Text).HasNoPair := (hasNoPair_link h).string_append _
  exact (((hlink.append_string _).append_string _).append_string _).append_string _

def constantMethods : List Method :=
  [enableEndpointDiscovery, endpointDiscoveryEnabled, accountIdEndpointMode, tokenProvider,
    throwingSetter "tokenProvider" identityProviderType tokenProviderDocumentation,
    throwingSetter "sigv4aSigningRegionSet" "RegionSet" regionSetDocumentation]

/-- No fixed method has a surrogate in it. -/
theorem isWhole_texts_constantMethods : ∀ e ∈ constantMethods, ∀ t ∈ e.texts, t.isWhole = true := by
  simp only [constantMethods, enableEndpointDiscovery, endpointDiscoveryEnabled,
    accountIdEndpointMode, tokenProvider, throwingSetter, Method.texts, Parameter.texts,
    throwStatement, link, identityProviderType, tokenProviderDocumentation,
    regionSetDocumentation, List.forall_mem_cons, List.forall_mem_append, List.forall_mem_flatMap,
    Option.toList_some, Option.toList_none, List.not_mem_nil, Text.isWhole_append,
    Text.isWhole_ofString]
  simp [Text.isWhole]

theorem hasNoPair_texts_serviceConfiguration {type : Text} (h : type.HasNoPair) :
    ∀ e ∈ [serviceConfiguration type, serviceConfigurationConsumer type],
      ∀ t ∈ e.texts, t.HasNoPair := by
  have hconsumer := (h.string_append "Consumer<").append_string ".Builder>"
  have hbody := (h.string_append "return serviceConfiguration(").append_string
    ".builder().applyMutation(serviceConfiguration).build())"
  simp only [serviceConfiguration, serviceConfigurationConsumer, Method.texts, Parameter.texts,
    List.forall_mem_append, List.forall_mem_cons, List.forall_mem_flatMap, Option.toList_some,
    Option.toList_none, List.not_mem_nil, h, hconsumer, hbody, Text.hasNoPair_ofString,
    Text.hasNoPair_nil]
  simp

/-- The methods of a slot have no pair in their texts if the model has none. -/
theorem hasNoPair_texts_methods {m : Capability} (h : ∀ t ∈ m.texts, t.HasNoPair) (slot : Slot) :
    ∀ e ∈ slot.methods m, ∀ t ∈ e.texts, t.HasNoPair := by
  have hstring (s : String) : (s : Text).HasNoPair := Text.hasNoPair_ofString s
  have hconstant (hs : slot.methods m ⊆ constantMethods) :
      ∀ e ∈ slot.methods m, ∀ t ∈ e.texts, t.HasNoPair :=
    fun e he t ht => Text.hasNoPair_of_isWhole (isWhole_texts_constantMethods e (hs he) t ht)
  have hsetter {p : Text × ContextParam} (hp : p ∈ m.declarations) :
      ∀ t ∈ (contextParamSetter p.1 p.2).texts, t.HasNoPair := by
    have hmem : ∀ t ∈ [p.2.type, p.2.documentation], t ∈ m.texts := fun t ht =>
      List.mem_append_right _ (List.mem_flatMap_of_mem hp ht)
    exact hasNoPair_texts_contextParamSetter p.1 (h _ (hmem _ (by simp))) (h _ (hmem _ (by simp)))
  cases slot with
  | endpointDiscovery =>
    apply hconstant
    cases hr : m.endpointDiscoveryRequired <;> simp [Slot.methods, hr, constantMethods]
  | serviceConfiguration =>
    have htype : (m.serviceConfigType.getD "").HasNoPair := by
      cases hs : m.serviceConfigType with
      | none => exact hstring ""
      | some s => exact h s (by simp [Capability.texts, hs])
    exact hasNoPair_texts_serviceConfiguration htype
  | endpointProvider =>
    have htype : m.endpointProviderTypeName.HasNoPair :=
      hasNoPair_typeName h (fun t ht => by simp [Capability.texts, ht]) _
    exact List.forall_mem_singleton.mpr (hasNoPair_texts_throwingSetter _ htype
      (hasNoPair_providerDocumentation htype _))
  | authSchemeProvider =>
    have htype : m.authSchemeProviderTypeName.HasNoPair :=
      hasNoPair_typeName h (fun t ht => by simp [Capability.texts, ht]) _
    exact List.forall_mem_singleton.mpr (hasNoPair_texts_throwingSetter _ htype
      (hasNoPair_providerDocumentation htype _))
  | clientContextParams =>
    intro e he
    obtain ⟨p, hp, rfl⟩ := List.mem_map.mp he
    exact hsetter (List.mem_append_left _ hp)
  | customClientContextParams =>
    intro e he
    obtain ⟨p, hp, rfl⟩ := List.mem_map.mp he
    exact hsetter (List.mem_append_right _ hp)
  | accountIdEndpointMode =>
    apply hconstant
    cases hs : m.supportsAccountIdEndpointMode <;> simp [Slot.methods, hs, constantMethods]
  | tokenProvider =>
    apply hconstant
    simp [Slot.methods, constantMethods]
  | requestChecksumCalculation =>
    exact List.forall_mem_singleton.mpr (hasNoPair_texts_throwingSetter _ (hstring _) (hstring _))
  | responseChecksumValidation =>
    exact List.forall_mem_singleton.mpr (hasNoPair_texts_throwingSetter _ (hstring _) (hstring _))
  | sigv4aSigningRegionSet =>
    apply hconstant
    simp [Slot.methods, constantMethods]

/-- A contract has no pair in its texts if its model has none. -/
theorem hasNoPair_texts_synthesizeContract {m : Capability} (h : ∀ t ∈ m.texts, t.HasNoPair) :
    ∀ t ∈ (synthesizeContract m).texts, t.HasNoPair := by
  have hmethods : ∀ e ∈ synthesize m, ∀ t ∈ e.texts, t.HasNoPair := by
    intro e he
    obtain ⟨slot, -, hslot⟩ := List.mem_flatMap.mp he
    rw [slotBlock] at hslot
    split at hslot
    · exact hasNoPair_texts_methods h slot e hslot
    · cases hslot
  have hservice : m.serviceName.HasNoPair := h _ (by simp [Capability.texts])
  have hpackage : m.basePackage.HasNoPair := h _ (by simp [Capability.texts])
  have hdisplay : m.displayName.HasNoPair :=
    hasNoPair_givenOr (List.forall_mem_singleton.mpr (h _ (by simp [Capability.texts]))) hservice
  have hinterface : m.baseBuilderInterfaceName.HasNoPair :=
    hasNoPair_typeName h (fun t ht => by simp [Capability.texts, ht]) _
  have hsync : m.syncBuilderInterfaceName.HasNoPair :=
    hasNoPair_typeName h (fun t ht => by simp [Capability.texts, ht]) _
  have hasync : m.asyncBuilderInterfaceName.HasNoPair :=
    hasNoPair_typeName h (fun t ht => by simp [Capability.texts, ht]) _
  have hvariable := (hinterface.string_append "B extends ").append_string "<B, C>"
  have hboth := ((hdisplay.string_append "This includes configuration specific to ").append_string
    " that is supported by both ")
  have hdocumentation := (hasNoPair_append_link
    ((hasNoPair_append_link hboth hsync).append_string " and ") hasync).append_string "."
  simp only [Contract.texts, synthesizeContract, List.forall_mem_append, List.forall_mem_cons,
    List.not_mem_nil, List.forall_mem_flatMap, hinterface, hpackage, hvariable, hdocumentation,
    Text.hasNoPair_ofString]
  simpa using hmethods

end ClientBuilder
