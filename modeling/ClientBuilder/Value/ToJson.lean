import ClientBuilder.Json.Basic
import ClientBuilder.Value.Literal

namespace ClientBuilder.Value

def jsonOfFloat (x : Float) : Json :=
  match Decimal.Binary.ofFloat x with
  | .finite d =>
    let (coefficient, exponent) :=
      if d.mantissa = 0 then (0, 0) else Decimal.shortest d.mantissa d.exponent
    .decimal d.negative coefficient exponent
  | .infinite negative => .infinite negative
  | .notANumber => .notANumber

mutual

def toJson : Value → Json
  | null => .null
  | bool b => .bool b
  | int n => .int n
  | float x => jsonOfFloat x
  | text s => .string s
  | list items => .array (itemsToJson items)
  | tuple items => .array (itemsToJson items)
  | set items => .array (itemsToJson items)
  | mapping pairs => .object (pairsToJson pairs)
  | v => .string v.shown

def itemsToJson : List Value → List Json
  | [] => []
  | v :: r => toJson v :: itemsToJson r

def pairsToJson : List (Value × Value) → List (Text × Json)
  | [] => []
  | (k, v) :: r => (k.shown, toJson v) :: pairsToJson r

end

end ClientBuilder.Value
