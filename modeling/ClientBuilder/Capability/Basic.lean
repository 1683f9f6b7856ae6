import ClientBuilder.ContextParam

namespace ClientBuilder

structure Capability where
  serviceName : Text := []
  descriptiveServiceName : Text := []
  basePackage : Text := []
  baseBuilderInterface : Option Text := none
  syncBuilderInterface : Option Text := none
  asyncBuilderInterface : Option Text := none
  -- The service has an operation that discovers endpoints.
  hasEndpointDiscoveryOperation : Bool := false
  -- The deprecated switch for endpoint discovery is asked for as well.
  endpointDiscoveryRequired : Bool := false
  serviceConfigType : Option Text := none
  endpointProviderType : Option Text := none
  authSchemeProviderType : Option Text := none
  clientContextParams : ParamGroup := .empty
  customClientContextParams : ParamGroup := .empty
  supportsAccountIdEndpointMode : Bool := false
  usesBearerAuth : Bool := false
  hasRequestChecksumCapability : Bool := false
  hasResponseChecksumCapability : Bool := false
  supportsSigv4aRegionSet : Bool := false
  deriving DecidableEq

instance : Inhabited Capability :=
  ⟨{}⟩

def givenOr (name : Option Text) (other : Text) : Text :=
  match name with
  | some s => if s = [] then other else s
  | none => other

namespace Capability

def hasServiceLevelConfig (m : Capability) : Bool :=
  match m.serviceConfigType with
  | some s => s ≠ []
  | none => false

def endpointProviderTypeName (m : Capability) : Text :=
  givenOr m.endpointProviderType (m.serviceName ++ "EndpointProvider")

def authSchemeProviderTypeName (m : Capability) : Text :=
  givenOr m.authSchemeProviderType (m.serviceName ++ "AuthSchemeProvider")

def baseBuilderInterfaceName (m : Capability) : Text :=
  givenOr m.baseBuilderInterface (m.serviceName ++ "BaseClientBuilder")

def syncBuilderInterfaceName (m : Capability) : Text :=
  givenOr m.syncBuilderInterface (m.serviceName ++ "ClientBuilder")

def asyncBuilderInterfaceName (m : Capability) : Text :=
  givenOr m.asyncBuilderInterface (m.serviceName ++ "AsyncClientBuilder")

def displayName (m : Capability) : Text :=
  givenOr (some m.descriptiveServiceName) m.serviceName

def declarations (m : Capability) : List (Text × ContextParam) :=
  m.clientContextParams.pairs ++ m.customClientContextParams.pairs

end Capability

end ClientBuilder
