import ClientBuilder.ContextParam

namespace ClientBuilder

structure HttpChecksum where
  requestAlgorithmMember : Option Text
  responseAlgorithms : Option (List Text)
  deriving Repr, DecidableEq

structure Operation where
  auth : List Text
  httpChecksum : Option HttpChecksum
  deriving Repr, DecidableEq

structure ServiceInfo where
  name : Text
  descriptiveName : Text
  package : Text
  auth : List Text
  deriving Repr, DecidableEq

structure Customization where
  serviceConfig : Option Text := none
  enableEndpointDiscoveryMethodRequired : Bool := false
  customClientContextParams : ParamGroup := .empty
  deriving DecidableEq

structure Service where
  info : ServiceInfo
  endpointOperation : Option Text
  clientContextParams : ParamGroup
  endpointBuiltins : List Text
  customization : Customization
  operations : OrderedMap Operation
  deriving DecidableEq

end ClientBuilder
