import ClientBuilder.Text.Basic

namespace ClientBuilder

inductive Json where
  | null
  | bool (b : Bool)
  | int (n : Int)
  -- The number `coefficient * 10 ^ exponent`, negated if `negative`; nought has a sign too.
  | decimal (negative : Bool) (coefficient : Nat) (exponent : Int)
  | infinite (negative : Bool)
  | notANumber
  | string (text : Text)
  | array (items : List Json)
  | object (fields : List (Text × Json))
  deriving Repr, BEq, Inhabited

namespace Json

def field? : Json → Text → Option Json
  | object fields, name => fields.lookup name
  | _, _ => none

def infinityWord : List Char :=
  "Infinity".toList

def notANumberWord : List Char :=
  "NaN".toList

def ofText? : Option Text → Json
  | some s => string s
  | none => null

def ofTexts (texts : List Text) : Json :=
  array (texts.map string)

end Json

end ClientBuilder
