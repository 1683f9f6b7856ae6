namespace ClientBuilder.Capability

inductive Field where
  | serviceName
  | descriptiveServiceName
  | basePackage
  | baseBuilderInterface
  | syncBuilderInterface
  | asyncBuilderInterface
  | hasEndpointDiscoveryOperation
  | endpointDiscoveryRequired
  | serviceConfigType
  | endpointProviderType
  | authSchemeProviderType
  | clientContextParams
  | customClientContextParams
  | supportsAccountIdEndpointMode
  | usesBearerAuth
  | hasRequestChecksumCapability
  | hasResponseChecksumCapability
  | supportsSigv4aRegionSet
  deriving Repr, DecidableEq

namespace Field

def all : List Field :=
  [serviceName, descriptiveServiceName, basePackage, baseBuilderInterface, syncBuilderInterface,
    asyncBuilderInterface, hasEndpointDiscoveryOperation, endpointDiscoveryRequired,
    serviceConfigType, endpointProviderType, authSchemeProviderType, clientContextParams,
    customClientContextParams, supportsAccountIdEndpointMode, usesBearerAuth,
    hasRequestChecksumCapability, hasResponseChecksumCapability, supportsSigv4aRegionSet]

def name : Field → String
  | serviceName => "service_name"
  | descriptiveServiceName => "descriptive_service_name"
  | basePackage => "base_package"
  | baseBuilderInterface => "base_builder_interface"
  | syncBuilderInterface => "sync_builder_interface"
  | asyncBuilderInterface => "async_builder_interface"
  | hasEndpointDiscoveryOperation => "has_endpoint_discovery_operation"
  | endpointDiscoveryRequired => "endpoint_discovery_required"
  | serviceConfigType => "service_config_type"
  | endpointProviderType => "endpoint_provider_type"
  | authSchemeProviderType => "auth_scheme_provider_type"
  | clientContextParams => "client_context_params"
  | customClientContextParams => "custom_client_context_params"
  | supportsAccountIdEndpointMode => "supports_account_id_endpoint_mode"
  | usesBearerAuth => "uses_bearer_auth"
  | hasRequestChecksumCapability => "has_request_checksum_capability"
  | hasResponseChecksumCapability => "has_response_checksum_capability"
  | supportsSigv4aRegionSet => "supports_sigv4a_region_set"

def spellings : Field → List String
  | serviceName => ["serviceName", "service_name"]
  | descriptiveServiceName => ["descriptiveServiceName", "descriptive_service_name"]
  | basePackage => ["basePackage", "base_package"]
  | baseBuilderInterface => ["baseBuilderInterface", "base_builder_interface"]
  | syncBuilderInterface => ["syncBuilderInterface", "sync_builder_interface"]
  | asyncBuilderInterface => ["asyncBuilderInterface", "async_builder_interface"]
  | hasEndpointDiscoveryOperation =>
    ["hasEndpointDiscoveryOperation", "has_endpoint_discovery_operation"]
  | endpointDiscoveryRequired => ["endpointDiscoveryRequired", "endpoint_discovery_required"]
  | serviceConfigType => ["serviceConfigType", "service_config_type"]
  | endpointProviderType => ["endpointProviderType", "endpoint_provider_type"]
  | authSchemeProviderType => ["authSchemeProviderType", "auth_scheme_provider_type"]
  | clientContextParams => ["clientContextParams", "client_context_params"]
  | customClientContextParams => ["customClientContextParams", "custom_client_context_params"]
  | supportsAccountIdEndpointMode =>
    ["supportsAccountIdEndpointMode", "supports_account_id_endpoint_mode"]
  | usesBearerAuth => ["usesBearerAuth", "uses_bearer_auth"]
  | hasRequestChecksumCapability =>
    ["hasRequestChecksumCapability", "has_request_checksum_capability"]
  | hasResponseChecksumCapability =>
    ["hasResponseChecksumCapability", "has_response_checksum_capability"]
  | supportsSigv4aRegionSet =>
    ["supports_sigv4a_region_set", "supportsSigV4aRegionSet", "supportsSigv4aRegionSet"]

theorem mem_all (f : Field) : f ∈ all := by
  cases f <;> decide

theorem name_mem_spellings (f : Field) : f.name ∈ f.spellings := by
  cases f <;> decide

end Field

end ClientBuilder.Capability
