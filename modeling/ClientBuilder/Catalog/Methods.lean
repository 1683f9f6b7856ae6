import ClientBuilder.Capability.Basic
import ClientBuilder.Catalog.Slot
import ClientBuilder.Method.Basic
import ClientBuilder.Setter.Name

namespace ClientBuilder

def throwStatement : Text :=
  "throw new UnsupportedOperationException()"

def link (target : Text) : Text :=
  "\x7b@link " ++ target ++ "\x7d"

def throwingSetter (name type documentation : Text) : Method where
  name := name
  parameters := [⟨name, type⟩]
  overridePolicy := .defaultThrowsUnimplemented
  documentation := documentation
  body := some throwStatement

def contextParamSetter (name : Text) (param : ContextParam) : Method where
  name := Setter.setterName name
  parameters := [⟨Setter.setterName name, param.type⟩]
  overridePolicy := .abstractRequired
  documentation := param.documentation

def contextParamSetters (group : ParamGroup) : List Method :=
  group.pairs.map fun p => contextParamSetter p.1 p.2

def enableEndpointDiscovery : Method where
  name := "enableEndpointDiscovery"
  parameters := [⟨"endpointDiscovery", "boolean"⟩]
  overridePolicy := .deprecatedAlias
  documentation := "@deprecated Use " ++ link "#endpointDiscoveryEnabled(boolean)" ++ " instead."
  replacedBy := some "endpointDiscoveryEnabled"

def endpointDiscoveryEnabled : Method where
  name := "endpointDiscoveryEnabled"
  parameters := [⟨"endpointDiscovery", "boolean"⟩]
  overridePolicy := .abstractRequired

def serviceConfiguration (type : Text) : Method where
  name := "serviceConfiguration"
  parameters := [⟨"serviceConfiguration", type⟩]
  overridePolicy := .abstractRequired

def serviceConfigurationConsumer (type : Text) : Method where
  name := "serviceConfiguration"
  parameters := [⟨"serviceConfiguration", "Consumer<" ++ type ++ ".Builder>"⟩]
  overridePolicy := .defaultWithBody
  body := some <| "return serviceConfiguration(" ++ type
    ++ ".builder().applyMutation(serviceConfiguration).build())"

def providerDocumentation (type purpose : Text) : Text :=
  "Set the " ++ link type ++ " implementation that will be used by the client to " ++ purpose
    ++ " for each request. This is optional; if none is provided a default implementation will be "
    ++ "used the SDK."

def identityProviderType : Text :=
  "IdentityProvider<? extends TokenIdentity>"

def tokenProviderDocumentation : Text :=
  "Set the token provider to use for bearer token authorization. This is optional, if none "
    ++ "is provided, the SDK will use " ++ link "DefaultAwsTokenProvider" ++ ".\n"
    ++ "<p>\n"
    ++ "If the service, or any of its operations require Bearer Token Authorization, then the "
    ++ "SDK will default to this token provider to retrieve the token to use for authorization.\n"
    ++ "<p>\n"
    ++ "This provider works in conjunction with the "
    ++ "\x7b@code SdkAdvancedClientOption.TOKEN_SIGNER\x7d set on the client. By default it is "
    ++ link "BearerTokenSigner" ++ "."

def tokenProvider : Method where
  name := "tokenProvider"
  parameters := [⟨"tokenProvider", "SdkTokenProvider"⟩]
  overridePolicy := .defaultWithBody
  documentation := tokenProviderDocumentation
  body := some <| "return tokenProvider((" ++ identityProviderType ++ ") tokenProvider)"

def regionSetDocumentation : Text :=
  "Sets the " ++ link "RegionSet" ++ " to be used for operations using Sigv4a signing requests.\n"
    ++ "This is optional; if not provided, the following precedence is used:\n"
    ++ "<ol>\n"
    ++ "    <li>" ++ link "SdkSystemSetting#AWS_SIGV4A_SIGNING_REGION_SET" ++ ".</li>\n"
    ++ "    <li>as <code>sigv4a_signing_region_set</code> in the configuration file.</li>\n"
    ++ "    <li>The region configured for the client.</li>\n"
    ++ "</ol>\n"

def accountIdEndpointMode : Method :=
  throwingSetter "accountIdEndpointMode" "AccountIdEndpointMode" <|
    "Sets the behavior when account ID based endpoints are created. See "
      ++ link "AccountIdEndpointMode" ++ " for values"

namespace Slot

def applies (slot : Slot) (m : Capability) : Bool :=
  match slot with
  | endpointDiscovery => m.hasEndpointDiscoveryOperation
  | serviceConfiguration => m.hasServiceLevelConfig
  | endpointProvider => true
  | authSchemeProvider => true
  | clientContextParams => !m.clientContextParams.isEmpty
  | customClientContextParams => !m.customClientContextParams.isEmpty
  | accountIdEndpointMode => m.supportsAccountIdEndpointMode
  | tokenProvider => m.usesBearerAuth
  | requestChecksumCalculation => m.hasRequestChecksumCapability
  | responseChecksumValidation => m.hasResponseChecksumCapability
  | sigv4aSigningRegionSet => m.supportsSigv4aRegionSet

def methods (slot : Slot) (m : Capability) : List Method :=
  match slot with
  | endpointDiscovery =>
    (if m.endpointDiscoveryRequired then [enableEndpointDiscovery] else [])
      ++ [endpointDiscoveryEnabled]
  | serviceConfiguration =>
    let type := m.serviceConfigType.getD ""
    [ClientBuilder.serviceConfiguration type, serviceConfigurationConsumer type]
  | endpointProvider =>
    let type := m.endpointProviderTypeName
    [throwingSetter "endpointProvider" type (providerDocumentation type "determine the endpoint")]
  | authSchemeProvider =>
    let type := m.authSchemeProviderTypeName
    [throwingSetter "authSchemeProvider" type
      (providerDocumentation type "resolve the auth scheme")]
  | clientContextParams => contextParamSetters m.clientContextParams
  | customClientContextParams => contextParamSetters m.customClientContextParams
  | accountIdEndpointMode =>
    if m.supportsAccountIdEndpointMode then [ClientBuilder.accountIdEndpointMode] else []
  | tokenProvider =>
    [ClientBuilder.tokenProvider,
      throwingSetter "tokenProvider" identityProviderType tokenProviderDocumentation]
  | requestChecksumCalculation =>
    [throwingSetter "requestChecksumCalculation" "RequestChecksumCalculation"
      "Configures the client behavior for request checksum calculation."]
  | responseChecksumValidation =>
    [throwingSetter "responseChecksumValidation" "ResponseChecksumValidation"
      "Configures the client behavior for response checksum validation."]
  | sigv4aSigningRegionSet =>
    [throwingSetter "sigv4aSigningRegionSet" "RegionSet" regionSetDocumentation]

end Slot

def fullCapability : Capability where
  hasEndpointDiscoveryOperation := true
  endpointDiscoveryRequired := true
  serviceConfigType := some "ServiceConfiguration"
  supportsAccountIdEndpointMode := true
  usesBearerAuth := true
  hasRequestChecksumCapability := true
  hasResponseChecksumCapability := true
  supportsSigv4aRegionSet := true

def reservedNames : List Text :=
  ((Slot.all.filter fun s => !s.isDynamic).flatMap fun s =>
    (s.methods fullCapability).map (·.name)).eraseDups

end ClientBuilder
