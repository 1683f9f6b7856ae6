import ClientBuilder.Capability.Decode

namespace ClientBuilder

inductive Group where
  | client
  | custom
  deriving Repr, DecidableEq

def Capability.Field.group? : Capability.Field → Option Group
  | .clientContextParams => some .client
  | .customClientContextParams => some .custom
  | _ => none

structure Draft where
  -- What stands in a field that is no group.
  value : Capability.Field → Value
  params : Group → ParamGroup

namespace Draft

open Capability (Field)

def ofCapability (m : Capability) : Draft where
  value := m.fieldValue
  params := fun
    | .client => m.clientContextParams
    | .custom => m.customClientContextParams

instance : Inhabited Draft :=
  ⟨ofCapability {}⟩

def withValue (d : Draft) (field : Field) (v : Value) : Draft :=
  { d with value := fun f => if f = field then v else d.value f }

def withParams (d : Draft) (group : Group) (ps : ParamGroup) : Draft :=
  { d with params := fun g => if g = group then ps else d.params g }

@[simp]
theorem value_withValue (d : Draft) (field : Field) (v : Value) :
    (d.withValue field v).value field = v := by
  simp [withValue]

/-- A new value in one field leaves the other fields alone. -/
theorem value_withValue_of_ne (d : Draft) {field other : Field} (h : other ≠ field) (v : Value) :
    (d.withValue field v).value other = d.value other := by
  simp [withValue, h]

@[simp]
theorem params_withParams (d : Draft) (group : Group) (ps : ParamGroup) :
    (d.withParams group ps).params group = ps := by
  simp [withParams]

def shown (d : Draft) (field : Field) : Text :=
  (d.value field).shown

def given (d : Draft) (field : Field) : Bool :=
  (d.value field).isTruthy

def name? (d : Draft) (field : Field) : Option Text :=
  if d.given field then some (d.shown field) else none

def toCapability (d : Draft) : Capability where
  serviceName := d.shown .serviceName
  descriptiveServiceName := (d.name? .descriptiveServiceName).getD []
  basePackage := d.shown .basePackage
  baseBuilderInterface := d.name? .baseBuilderInterface
  syncBuilderInterface := d.name? .syncBuilderInterface
  asyncBuilderInterface := d.name? .asyncBuilderInterface
  hasEndpointDiscoveryOperation := d.given .hasEndpointDiscoveryOperation
  endpointDiscoveryRequired := d.given .endpointDiscoveryRequired
  serviceConfigType := d.name? .serviceConfigType
  endpointProviderType := d.name? .endpointProviderType
  authSchemeProviderType := d.name? .authSchemeProviderType
  clientContextParams := d.params .client
  customClientContextParams := d.params .custom
  supportsAccountIdEndpointMode := d.given .supportsAccountIdEndpointMode
  usesBearerAuth := d.given .usesBearerAuth
  hasRequestChecksumCapability := d.given .hasRequestChecksumCapability
  hasResponseChecksumCapability := d.given .hasResponseChecksumCapability
  supportsSigv4aRegionSet := d.given .supportsSigv4aRegionSet

inductive Property where
  | hasServiceLevelConfig
  | endpointProviderTypeName
  | authSchemeProviderTypeName
  | baseBuilderInterfaceName
  | syncBuilderInterfaceName
  | asyncBuilderInterfaceName
  | displayName
  deriving Repr, DecidableEq

namespace Property

def all : List Property :=
  [hasServiceLevelConfig, endpointProviderTypeName, authSchemeProviderTypeName,
    baseBuilderInterfaceName, syncBuilderInterfaceName, asyncBuilderInterfaceName, displayName]

def name : Property → String
  | hasServiceLevelConfig => "has_service_level_config"
  | endpointProviderTypeName => "endpoint_provider_type_name"
  | authSchemeProviderTypeName => "auth_scheme_provider_type_name"
  | baseBuilderInterfaceName => "base_builder_interface_name"
  | syncBuilderInterfaceName => "sync_builder_interface_name"
  | asyncBuilderInterfaceName => "async_builder_interface_name"
  | displayName => "display_name"

end Property

def valueOr (d : Draft) (field : Field) (other : Value) : Value :=
  if d.given field then d.value field else other

def property (d : Draft) : Property → Value
  | .hasServiceLevelConfig => .bool d.toCapability.hasServiceLevelConfig
  | .endpointProviderTypeName =>
    d.valueOr .endpointProviderType (.text d.toCapability.endpointProviderTypeName)
  | .authSchemeProviderTypeName =>
    d.valueOr .authSchemeProviderType (.text d.toCapability.authSchemeProviderTypeName)
  | .baseBuilderInterfaceName =>
    d.valueOr .baseBuilderInterface (.text d.toCapability.baseBuilderInterfaceName)
  | .syncBuilderInterfaceName =>
    d.valueOr .syncBuilderInterface (.text d.toCapability.syncBuilderInterfaceName)
  | .asyncBuilderInterfaceName =>
    d.valueOr .asyncBuilderInterface (.text d.toCapability.asyncBuilderInterfaceName)
  | .displayName => d.valueOr .descriptiveServiceName (d.value .serviceName)

inductive AssignError where
  | unknownField
  | derivedField
  -- A group takes no value but the empty mapping.
  | notGroup
  deriving Repr, DecidableEq

def isPrivateName (name : Text) : Bool :=
  name.head? = some (.char '_')

def assign (d : Draft) (name : Text) (v : Value) : Except AssignError Draft :=
  match Field.all.find? fun f => Text.ofString f.name == name with
  | some f =>
    match f.group?, v with
    | none, v => .ok (d.withValue f v)
    | some g, .mapping [] => .ok (d.withParams g .empty)
    | some _, _ => .error .notGroup
  | none =>
    if isPrivateName name then .ok d
    else if Property.all.any fun p => Text.ofString p.name == name then .error .derivedField
    else .error .unknownField

end Draft

end ClientBuilder
