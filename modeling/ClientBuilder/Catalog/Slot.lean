namespace ClientBuilder

inductive Slot where
  | endpointDiscovery
  | serviceConfiguration
  | endpointProvider
  | authSchemeProvider
  | clientContextParams
  | customClientContextParams
  | accountIdEndpointMode
  | tokenProvider
  | requestChecksumCalculation
  | responseChecksumValidation
  | sigv4aSigningRegionSet
  deriving Repr, DecidableEq

namespace Slot

def all : List Slot :=
  [endpointDiscovery, serviceConfiguration, endpointProvider, authSchemeProvider,
    clientContextParams, customClientContextParams, accountIdEndpointMode, tokenProvider,
    requestChecksumCalculation, responseChecksumValidation, sigv4aSigningRegionSet]

def key : Slot → String
  | endpointDiscovery => "endpoint_discovery"
  | serviceConfiguration => "service_configuration"
  | endpointProvider => "endpoint_provider"
  | authSchemeProvider => "auth_scheme_provider"
  | clientContextParams => "client_context_params"
  | customClientContextParams => "custom_client_context_params"
  | accountIdEndpointMode => "account_id_endpoint_mode"
  | tokenProvider => "token_provider"
  | requestChecksumCalculation => "request_checksum_calculation"
  | responseChecksumValidation => "response_checksum_validation"
  | sigv4aSigningRegionSet => "sigv4a_signing_region_set"

def description : Slot → String
  | endpointDiscovery => "Endpoint discovery toggle (and its deprecated alias when required)"
  | serviceConfiguration => "Service-level configuration object and consumer-builder overload"
  | endpointProvider => "Endpoint provider override"
  | authSchemeProvider => "Auth scheme provider override"
  | clientContextParams => "One setter per client context parameter"
  | customClientContextParams => "One setter per customization-defined client context parameter"
  | accountIdEndpointMode => "Account-id endpoint mode (delegated provider)"
  | tokenProvider => "Bearer token provider overload pair"
  | requestChecksumCalculation => "Request checksum calculation behavior"
  | responseChecksumValidation => "Response checksum validation behavior"
  | sigv4aSigningRegionSet => "SigV4a signing region set"

def isDynamic : Slot → Bool
  | clientContextParams => true
  | customClientContextParams => true
  | _ => false

def ofKey? (key : String) : Option Slot :=
  all.find? fun s => s.key == key

theorem mem_all (s : Slot) : s ∈ all := by
  cases s <;> decide

theorem nodup_all : all.Nodup := by
  decide

/-- Every slot is found under its own key. -/
theorem ofKey?_key (s : Slot) : ofKey? s.key = some s := by
  cases s <;> rfl

end Slot

end ClientBuilder
