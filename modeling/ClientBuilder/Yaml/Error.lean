namespace ClientBuilder.Yaml

inductive ScalarFault where
  -- The characters stand for no value of the kind.
  | badValue
  -- A truth value is none of the words for one.
  | unknownWord
  -- A number has no character besides a sign.
  | emptyNumber
  -- A time does not look like one.
  | noTime
  -- A time is given as a mapping.
  | timeOfMapping
  -- A number is out of reach of the arithmetic that it is meant for.
  | numberTooLarge
  deriving Repr, DecidableEq

inductive Error where
  -- The text does not follow the rules of the format.
  | malformed
  -- Collections are nested too deep, or one stands for its own text.
  | tooDeep
  | scalar (fault : ScalarFault)
  deriving Repr, DecidableEq

abbrev Result (α : Type) :=
  Except Error α

def malformed {α : Type} : Result α :=
  .error .malformed

def require (condition : Bool) : Result Unit :=
  if condition then .ok () else malformed

end ClientBuilder.Yaml
