import ClientBuilder.Catalog.Methods
import ClientBuilder.Text.Blank

namespace ClientBuilder

/-- An error of a model, by its cause. -/
inductive ModelError where
  -- Several names, in order, have the same setter.
  | sameSetter (names : List Text) (setter : Text)
  -- A name is declared in both groups.
  | declaredTwice (name : Text)
  -- A setter is named like a method of a fixed slot.
  | reservedSetter (name setter : Text)
  -- A name leaves nothing for the name of a setter.
  | noSetter (name : Text)
  -- A parameter is declared with a blank type.
  | noType (name : Text)
  deriving Repr, DecidableEq

def ModelError.message : ModelError → Text
  | sameSetter names setter =>
    "Context params " ++ Text.join ", " names ++ " all map to setter '" ++ setter ++ "'"
  | declaredTwice name =>
    "Context param '" ++ name ++ "' is declared as both client and custom param"
  | reservedSetter name setter =>
    "Context param '" ++ name ++ "' collides with builder method '" ++ setter ++ "'"
  | noSetter name => "Context param '" ++ name ++ "' does not yield a valid setter name"
  | noType name => "Context param '" ++ name ++ "' has no type"

inductive ModelWarning where
  -- The deprecated switch is asked for, but there is no operation that discovers endpoints.
  | discoveryWithoutOperation
  | noServiceName
  deriving Repr, DecidableEq

def ModelWarning.message : ModelWarning → String
  | discoveryWithoutOperation =>
    "endpoint_discovery_required is set but the service has no endpoint "
      ++ "discovery operation; enableEndpointDiscovery will not be generated."
  | noServiceName => "No service name set. Default type names will be unqualified."

def ModelWarning.of (switch operation named : Bool) : List ModelWarning :=
  (if switch && !operation then [discoveryWithoutOperation] else [])
    ++ if named then [] else [noServiceName]

def sortTexts (texts : List Text) : List Text :=
  texts.mergeSort Text.le

namespace Capability

def paramNames (m : Capability) : List Text :=
  (m.declarations.map (·.1)).eraseDups

def setters (m : Capability) : List (Text × Text) :=
  m.paramNames.map fun n => (n, Setter.setterName n)

def namesOf (setters : List (Text × Text)) (setter : Text) : List Text :=
  (setters.filter fun p => p.2 = setter).map (·.1)

def setterCollisions (m : Capability) : List ModelError :=
  let setters := m.setters
  let groups := (sortTexts (setters.map (·.2)).eraseDups).map fun s => (namesOf setters s, s)
  (groups.filter fun g => 1 < g.1.length).map fun g => .sameSetter (sortTexts g.1) g.2

def sharedNames (m : Capability) : List Text :=
  sortTexts (m.clientContextParams.keys.filter m.customClientContextParams.contains)

def setterErrors (name : Text) : List ModelError :=
  let setter := Setter.setterName name
  (if reservedNames.contains setter then [.reservedSetter name setter] else [])
    ++ (if setter = [] then [.noSetter name] else [])

/-- The errors of a model: colliding setters, names declared twice, setters that are wrong by
themselves, declarations without a type. -/
def errors (m : Capability) : List ModelError :=
  m.setterCollisions
    ++ m.sharedNames.map .declaredTwice
    ++ m.paramNames.flatMap setterErrors
    ++ (m.declarations.filter fun p => Text.isBlank p.2.type).map fun p => .noType p.1

def warnings (m : Capability) : List ModelWarning :=
  ModelWarning.of m.endpointDiscoveryRequired m.hasEndpointDiscoveryOperation
    (m.serviceName ≠ [])

end Capability

end ClientBuilder
