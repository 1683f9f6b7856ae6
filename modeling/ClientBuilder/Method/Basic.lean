import ClientBuilder.Text.Basic

namespace ClientBuilder

/-- How a concrete builder relates to a method of the interface. -/
inductive OverridePolicy where
  -- The builder has to implement the method.
  | abstractRequired
  -- The interface carries a body, which the builder inherits.
  | defaultWithBody
  -- The interface carries a body that throws, for builders without the feature.
  | defaultThrowsUnimplemented
  -- The method is an old name of another one.
  | deprecatedAlias
  deriving Repr, DecidableEq

namespace OverridePolicy

def all : List OverridePolicy :=
  [abstractRequired, defaultWithBody, defaultThrowsUnimplemented, deprecatedAlias]

def text : OverridePolicy → String
  | abstractRequired => "abstract_required"
  | defaultWithBody => "default_with_body"
  | defaultThrowsUnimplemented => "default_throws_unimplemented"
  | deprecatedAlias => "deprecated_alias"

def name : OverridePolicy → String
  | abstractRequired => "ABSTRACT_REQUIRED"
  | defaultWithBody => "DEFAULT_WITH_BODY"
  | defaultThrowsUnimplemented => "DEFAULT_THROWS_UNIMPLEMENTED"
  | deprecatedAlias => "DEPRECATED_ALIAS"

def ofText? (s : Text) : Option OverridePolicy :=
  all.find? fun p => Text.ofString p.text = s

def hasDefault : OverridePolicy → Bool
  | defaultWithBody => true
  | defaultThrowsUnimplemented => true
  | abstractRequired => false
  | deprecatedAlias => false

/-- Every policy is read back from how it is written. -/
theorem ofText?_text (p : OverridePolicy) : ofText? p.text = some p := by
  cases p <;> rfl

end OverridePolicy

structure Parameter where
  name : Text
  type : Text
  deriving Repr, DecidableEq

structure Method where
  name : Text
  parameters : List Parameter
  overridePolicy : OverridePolicy
  documentation : Text := []
  -- The method returns the builder, so that calls can be chained.
  returnsBuilderSelfType : Bool := true
  -- The statement of the body, where the interface carries one.
  body : Option Text := none
  -- The method that an old name stands for.
  replacedBy : Option Text := none
  deriving Repr, DecidableEq

namespace Method

def deprecated (m : Method) : Bool :=
  m.overridePolicy = .deprecatedAlias

def parameterTypes (m : Method) : List Text :=
  m.parameters.map (·.type)

def signature (m : Method) : Text :=
  m.name ++ "("
    ++ Text.join ", " (m.parameters.map fun p => p.type ++ " " ++ p.name) ++ ")"

end Method

end ClientBuilder
