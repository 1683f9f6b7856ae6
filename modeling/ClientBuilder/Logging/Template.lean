import ClientBuilder.Value.Literal

namespace ClientBuilder.Logging

def wholePart (d : Decimal.Dyadic) : Int :=
  let whole : Nat :=
    if d.exponent < 0 then d.mantissa / Nat.pow 2 (-d.exponent).toNat
    else d.mantissa * Nat.pow 2 d.exponent.toNat
  if d.negative then -whole else whole

def argumentNumber : Value → Text
  | .bool b => if b then "1" else "0"
  | .float x =>
    match Decimal.Binary.ofFloat x with
    | .finite d => Text.intText (wholePart d)
    | _ => Decimal.floatText x
  | v => v.shown

def fillFrom : (arguments : List Value) → Text → Text
  | _, [] => []
  | arguments, .char '%' :: .char '%' :: r => .char '%' :: fillFrom arguments r
  | a :: arguments, .char '%' :: .char 's' :: r => a.shown ++ fillFrom arguments r
  | a :: arguments, .char '%' :: .char 'd' :: r => argumentNumber a ++ fillFrom arguments r
  | arguments, c :: r => c :: fillFrom arguments r

def fill (template : Text) (arguments : List Value) : Text :=
  -- Without arguments a template stands for itself.
  if arguments.isEmpty then template else fillFrom arguments template

end ClientBuilder.Logging
