import ClientBuilder.Capability.Basic
import ClientBuilder.Logging.Record
import ClientBuilder.Service.Basic

namespace ClientBuilder

def bearerSchemes : List Text :=
  ["bearer", "smithy.api#httpBearerAuth"]

def sigv4aSchemes : List Text :=
  ["sigv4a", "aws.auth#sigv4a"]

def accountIdEndpointModeBuiltin : Text :=
  "AWS::Auth::AccountIdEndpointMode"

def usesAny (schemes spellings : List Text) : Bool :=
  schemes.any spellings.contains

namespace Operation

def requestsChecksum (op : Operation) : Bool :=
  op.httpChecksum.any fun c => c.requestAlgorithmMember.isSome

def validatesChecksum (op : Operation) : Bool :=
  op.httpChecksum.any fun c => c.responseAlgorithms.isSome

end Operation

structure Needs where
  bearer : Bool
  sigv4a : Bool
  requestChecksum : Bool := false
  responseChecksum : Bool := false
  deriving Repr, DecidableEq

namespace Needs

def ofInfo (info : ServiceInfo) : Needs where
  bearer := usesAny info.auth bearerSchemes
  sigv4a := usesAny info.auth sigv4aSchemes

def add (n : Needs) (op : Operation) : Needs where
  bearer := n.bearer || usesAny op.auth bearerSchemes
  sigv4a := n.sigv4a || usesAny op.auth sigv4aSchemes
  requestChecksum := n.requestChecksum || op.requestsChecksum
  responseChecksum := n.responseChecksum || op.validatesChecksum

end Needs

namespace Service

def needs (d : Service) : Needs :=
  -- Each operation is looked at once.
  d.operations.values.foldl Needs.add (.ofInfo d.info)

def toCapability (d : Service) : Capability where
  serviceName := d.info.name
  descriptiveServiceName := d.info.descriptiveName
  basePackage := d.info.package
  hasEndpointDiscoveryOperation := d.endpointOperation.isSome
  endpointDiscoveryRequired := d.customization.enableEndpointDiscoveryMethodRequired
  serviceConfigType := d.customization.serviceConfig
  clientContextParams := d.clientContextParams
  customClientContextParams := d.customization.customClientContextParams
  supportsAccountIdEndpointMode := d.endpointBuiltins.contains accountIdEndpointModeBuiltin
  usesBearerAuth := d.needs.bearer
  hasRequestChecksumCapability := d.needs.requestChecksum
  hasResponseChecksumCapability := d.needs.responseChecksum
  supportsSigv4aRegionSet := d.needs.sigv4a

def flagText (b : Bool) : String :=
  if b then "True" else "False"

def derivationRecord (d : Service) : Logging.Record :=
  let m := d.toCapability
  .debug "services.capabilities" <|
    "Derived capabilities for " ++ m.serviceName ++ ": bearer=" ++ flagText m.usesBearerAuth
      ++ " sigv4a=" ++ flagText m.supportsSigv4aRegionSet
      ++ " request_checksum=" ++ flagText m.hasRequestChecksumCapability
      ++ " response_checksum=" ++ flagText m.hasResponseChecksumCapability

end Service

end ClientBuilder
