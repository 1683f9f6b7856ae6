import ClientBuilder.Capability.Basic
import ClientBuilder.Capability.Field
import ClientBuilder.Validation.Decoder

/-!
Reading a capability model from a document, and writing it as one. Every key of the mapping has to
be a spelling of a field under which that field is looked up; a field under two spellings leaves one
of them unknown. A flag that tells whether the service has a configuration type is no field: it may
be given, and then has to agree with the type.
-/

namespace ClientBuilder.Capability

open Validation

def levelFlagSpellings : List String :=
  -- Where both are given the second one counts.
  ["hasServiceLevelConfig", "has_service_level_config"]

def levelFlag? (pairs : Pairs) : Option Value :=
  (given? pairs levelFlagSpellings.reverse).map (·.2)

def withoutLevelFlag (pairs : Pairs) : Pairs :=
  levelFlagSpellings.foldl (fun pairs (s : String) => Value.erase pairs s) pairs

def givesConfigType (pairs : Pairs) : Bool :=
  ["service_config_type", "serviceConfigType"].any fun (s : String) =>
    match Value.lookup pairs s with
    | some v => v.isTruthy
    | none => false

def levelFlagAgrees (pairs : Pairs) : Bool :=
  match levelFlag? pairs with
  | none => true
  | some .null => true
  | some v => v.isTruthy == givesConfigType pairs

def usedKeys (pairs : Pairs) : List Text :=
  Field.all.filterMap fun f => (given? pairs f.spellings).map fun p => p.1

def keyIssue? (used : List Text) (p : Value × Value) : Option Issue :=
  let path := [Step.key p.1.keyName]
  match p.1.asText? with
  | none => some ⟨path, .keyNotText, p.1.kind⟩
  | some s => if used.contains s then none else some ⟨path, .unknownKey, p.2.kind⟩

def keyIssues (pairs : Pairs) : List Issue :=
  pairs.filterMap (keyIssue? (usedKeys pairs))

def fields (pairs : Pairs) : Checked Capability :=
  let text (f : Field) : Checked Text := optional f.spellings [] Validation.text pairs
  let name (f : Field) : Checked (Option Text) :=
    optional f.spellings none (nullable Validation.text) pairs
  let flag (f : Field) : Checked Bool := optional f.spellings false Validation.flag pairs
  let group (f : Field) : Checked ParamGroup :=
    optional f.spellings .empty (mappingOf ContextParam.decode) pairs
  Capability.mk <$> text .serviceName
    <*> text .descriptiveServiceName
    <*> text .basePackage
    <*> name .baseBuilderInterface
    <*> name .syncBuilderInterface
    <*> name .asyncBuilderInterface
    <*> flag .hasEndpointDiscoveryOperation
    <*> flag .endpointDiscoveryRequired
    <*> name .serviceConfigType
    <*> name .endpointProviderType
    <*> name .authSchemeProviderType
    <*> group .clientContextParams
    <*> group .customClientContextParams
    <*> flag .supportsAccountIdEndpointMode
    <*> flag .usesBearerAuth
    <*> flag .hasRequestChecksumCapability
    <*> flag .hasResponseChecksumCapability
    <*> flag .supportsSigv4aRegionSet

/-- Whether a key is a text with a surrogate, which no key can be compared with. -/
def isBrokenKey : Value → Bool
  | .text s => !s.isWhole
  | _ => false

/-- A capability model. A configuration flag that disagrees, and a broken key after it, is the only
issue reported. -/
def decode : Decoder Capability :=
  record .capability fun pairs =>
    if levelFlagAgrees pairs then
      let rest := withoutLevelFlag pairs
      if rest.any fun p => isBrokenKey p.1 then .fail .textNotUnicode .text
      else (fields rest).withIssues (keyIssues rest)
    else .fail .levelFlagDisagrees .mapping

def nameValue : Option Text → Value
  | some s => .text s
  | none => .null

def fieldValue (m : Capability) : Field → Value
  | .serviceName => .text m.serviceName
  | .descriptiveServiceName => .text m.descriptiveServiceName
  | .basePackage => .text m.basePackage
  | .baseBuilderInterface => nameValue m.baseBuilderInterface
  | .syncBuilderInterface => nameValue m.syncBuilderInterface
  | .asyncBuilderInterface => nameValue m.asyncBuilderInterface
  | .hasEndpointDiscoveryOperation => .bool m.hasEndpointDiscoveryOperation
  | .endpointDiscoveryRequired => .bool m.endpointDiscoveryRequired
  | .serviceConfigType => nameValue m.serviceConfigType
  | .endpointProviderType => nameValue m.endpointProviderType
  | .authSchemeProviderType => nameValue m.authSchemeProviderType
  | .clientContextParams => m.clientContextParams.toValue
  | .customClientContextParams => m.customClientContextParams.toValue
  | .supportsAccountIdEndpointMode => .bool m.supportsAccountIdEndpointMode
  | .usesBearerAuth => .bool m.usesBearerAuth
  | .hasRequestChecksumCapability => .bool m.hasRequestChecksumCapability
  | .hasResponseChecksumCapability => .bool m.hasResponseChecksumCapability
  | .supportsSigv4aRegionSet => .bool m.supportsSigv4aRegionSet

def toPairs (m : Capability) : Pairs :=
  Field.all.map fun f => (.text f.name, m.fieldValue f)

end ClientBuilder.Capability
