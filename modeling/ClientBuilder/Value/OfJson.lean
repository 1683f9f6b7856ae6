import ClientBuilder.Json.Basic
import ClientBuilder.Value.Basic

namespace ClientBuilder.Value

/-- The double nearest to `coefficient * 10 ^ exponent`, negated if `negative`. Exponents beyond the
reach of a double, for a coefficient of that many digits, count as the farthest that matters. -/
def floatOfDecimal (negative : Bool) (coefficient : Nat) (exponent : Int) : Float :=
  let digits : Int := (Nat.toDigits 10 coefficient).length
  let x :=
    if exponent < 0 then
      let bound := min (-exponent) (digits + 400)
      Float.ofScientific coefficient true bound.toNat
    else Float.ofScientific coefficient false (min exponent 400).toNat
  if negative then -x else x

def infinity (negative : Bool) : Float :=
  if negative then -1.0 / 0.0 else 1.0 / 0.0

mutual

def ofJson : Json → Value
  | .null => null
  | .bool b => bool b
  | .int n => int n
  | .decimal negative c e => float (floatOfDecimal negative c e)
  | .infinite negative => float (infinity negative)
  | .notANumber => float (0.0 / 0.0)
  | .string s => text s
  | .array items => list (ofJsonItems items)
  | .object fields => mapping (ofJsonFields fields)

def ofJsonItems : List Json → List Value
  | [] => []
  | x :: r => ofJson x :: ofJsonItems r

def ofJsonFields : List (Text × Json) → List (Value × Value)
  | [] => []
  | (k, v) :: r => (text k, ofJson v) :: ofJsonFields r

end

end ClientBuilder.Value
