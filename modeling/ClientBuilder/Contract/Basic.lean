import ClientBuilder.Method.Basic

namespace ClientBuilder

structure Contract where
  interfaceName : Text
  package : Text
  typeVariables : List Text
  superInterface : Text
  annotations : List Text
  documentation : Text
  methods : List Method
  deriving Repr, DecidableEq

namespace Contract

def methodNames (c : Contract) : List Text :=
  c.methods.map (·.name)

def methodsNamed (c : Contract) (name : Text) : List Method :=
  c.methods.filter fun m => m.name == name

end Contract

end ClientBuilder
