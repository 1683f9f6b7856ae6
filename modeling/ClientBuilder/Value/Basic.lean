import ClientBuilder.Calendar
import ClientBuilder.Decimal.Binary
import ClientBuilder.Text.Basic
import ClientBuilder.Text.Utf8

namespace ClientBuilder

inductive Value where
  | null
  | bool (b : Bool)
  | int (n : Int)
  | float (x : Float)
  | text (s : Text)
  | bytes (content : List UInt8)
  | date (d : Date)
  | moment (m : Moment)
  | list (items : List Value)
  -- A pair out of an ordered list of pairs.
  | tuple (items : List Value)
  | set (items : List Value)
  | mapping (pairs : List (Value × Value))
  deriving Repr, Inhabited

inductive Kind where
  | null
  | bool
  | int
  | float
  | text
  | bytes
  | date
  | moment
  | list
  | tuple
  | set
  | mapping
  deriving Repr, DecidableEq

def Kind.name : Kind → String
  | null => "NoneType"
  | bool => "bool"
  | int => "int"
  | float => "float"
  | text => "str"
  | bytes => "bytes"
  | date => "date"
  | moment => "datetime"
  | list => "list"
  | tuple => "tuple"
  | set => "set"
  | mapping => "dict"

namespace Value

def kind : Value → Kind
  | null => .null
  | bool _ => .bool
  | int _ => .int
  | float _ => .float
  | text _ => .text
  | bytes _ => .bytes
  | date _ => .date
  | moment _ => .moment
  | list _ => .list
  | tuple _ => .tuple
  | set _ => .set
  | mapping _ => .mapping

def isTruthy : Value → Bool
  | null => false
  | bool b => b
  | int n => n ≠ 0
  | float x => x != 0
  | text s => !s.isEmpty
  | bytes content => !content.isEmpty
  | date _ => true
  | moment _ => true
  | list items => !items.isEmpty
  | tuple items => !items.isEmpty
  | set items => !items.isEmpty
  | mapping pairs => !pairs.isEmpty

def asText? : Value → Option Text
  | text s => some s
  | bytes content => (Text.ofUtf8? content).map Text.ofString
  | _ => none

def isText (name : Text) : Value → Bool
  | text s => s == name
  | _ => false

def lookup (pairs : List (Value × Value)) (name : Text) : Option Value :=
  -- The first such pair counts.
  (pairs.find? fun p => p.1.isText name).map (·.2)

def erase (pairs : List (Value × Value)) (name : Text) : List (Value × Value) :=
  pairs.filter fun p => !p.1.isText name

end Value

end ClientBuilder
