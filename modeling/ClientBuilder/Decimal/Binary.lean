namespace ClientBuilder.Decimal

structure Dyadic where
  negative : Bool
  mantissa : Nat
  exponent : Int
  deriving Repr, DecidableEq

inductive Binary where
  | finite (value : Dyadic)
  | infinite (negative : Bool)
  | notANumber
  deriving Repr, DecidableEq

def Binary.ofFloat (x : Float) : Binary :=
  let bits := x.toBits.toNat
  let negative := bits / Nat.pow 2 63 = 1
  let biased : Nat := bits / Nat.pow 2 52 % Nat.pow 2 11
  let fraction := bits % Nat.pow 2 52
  if biased = 2047 then
    if fraction = 0 then infinite negative else notANumber
  else if biased = 0 then finite ⟨negative, fraction, -1074⟩
  else finite ⟨negative, Nat.pow 2 52 + fraction, (biased : Int) - 1075⟩

namespace Dyadic

def reduceWith : (fuel : Nat) → Dyadic → Dyadic
  | 0, d => d
  | fuel + 1, d =>
    if d.mantissa % 2 = 0 then
      reduceWith fuel { d with mantissa := d.mantissa / 2, exponent := d.exponent + 1 }
    else d

def reduce (d : Dyadic) : Dyadic :=
  -- Zero keeps its mantissa and loses its sign.
  if d.mantissa = 0 then ⟨false, 0, 0⟩ else reduceWith 64 d

def toInt? (d : Dyadic) : Option Int :=
  let d := d.reduce
  if d.exponent < 0 then none
  else
    let n : Int := d.mantissa * Nat.pow 2 d.exponent.toNat
    some (if d.negative then -n else n)

end Dyadic

end ClientBuilder.Decimal
