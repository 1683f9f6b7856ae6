import ClientBuilder.Setter.Words
import ClientBuilder.Text.Basic

namespace ClientBuilder.Setter

def lower (c : Char) : Char :=
  if isUpper c then Char.ofNat (c.toNat + 32) else c

def upper (c : Char) : Char :=
  if isLower c then Char.ofNat (c.toNat - 32) else c

def capitalize : List Char → List Char
  | [] => []
  | c :: r => upper c :: r.map lower

def pascal (name : List Char) : List Char :=
  (words name).flatMap capitalize

def lowerFirst : List Char → List Char
  | [] => []
  | c :: r => lower c :: r

def camel (name : List Char) : List Char :=
  lowerFirst (pascal name)

/-- The name of the builder method that sets a parameter of the given name. What is no character
sets words apart like any other sign. -/
def setterName (name : Text) : Text :=
  .ofChars (camel name.chars)

end ClientBuilder.Setter
