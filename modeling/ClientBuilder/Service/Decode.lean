import ClientBuilder.Service.Basic
import ClientBuilder.Validation.Decoder

namespace ClientBuilder

open Validation

def HttpChecksum.decode : Decoder HttpChecksum :=
  record .httpChecksum fun pairs =>
    HttpChecksum.mk <$> optional ["request_algorithm_member"] none (nullable text) pairs
      <*> optional ["response_algorithms"] none (nullable (list text)) pairs

def Operation.decode : Decoder Operation :=
  record .operation fun pairs =>
    Operation.mk <$> optional ["auth"] [] (list text) pairs
      <*> optional ["http_checksum"] none (nullable HttpChecksum.decode) pairs

def ServiceInfo.decode : Decoder ServiceInfo :=
  record .serviceInfo fun pairs =>
    ServiceInfo.mk <$> required ["name"] text pairs
      <*> optional ["descriptive_name"] [] text pairs
      <*> optional ["package"] [] text pairs
      <*> optional ["auth"] [] (list text) pairs

def Customization.decode : Decoder Customization :=
  record .customization fun pairs =>
    Customization.mk <$> optional ["service_config"] none (nullable text) pairs
      <*> optional ["enable_endpoint_discovery_method_required"] false flag pairs
      <*> optional ["custom_client_context_params"] .empty (mappingOf ContextParam.decode) pairs

def Service.decode : Decoder Service :=
  record .service fun pairs =>
    Service.mk <$> required ["service"] ServiceInfo.decode pairs
      <*> optional ["endpoint_operation"] none (nullable text) pairs
      <*> optional ["client_context_params"] .empty (mappingOf ContextParam.decode) pairs
      <*> optional ["endpoint_builtins"] [] (list text) pairs
      <*> optional ["customization"] {} Customization.decode pairs
      <*> optional ["operations"] .empty (mappingOf Operation.decode) pairs

end ClientBuilder
