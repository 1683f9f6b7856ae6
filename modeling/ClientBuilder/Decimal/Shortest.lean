import ClientBuilder.Decimal.Binary
import ClientBuilder.Text.Numeral

/-!
The shortest decimal of a double: the fewest digits that still read back as the same double, and
among those the nearest. A number reads back if it lies in the interval of reals that round to the
double; the ends of that interval belong to it when the mantissa is even.
-/

namespace ClientBuilder.Decimal

structure Fraction where
  numerator : Nat
  denominator : Nat

namespace Fraction

def ofDyadic (n : Nat) (e : Int) : Fraction :=
  if e < 0 then ⟨n, Nat.pow 2 (-e).toNat⟩ else ⟨n * Nat.pow 2 e.toNat, 1⟩

def ofDecimal (n : Nat) (e : Int) : Fraction :=
  if e < 0 then ⟨n, Nat.pow 10 (-e).toNat⟩ else ⟨n * Nat.pow 10 e.toNat, 1⟩

def lt (a b : Fraction) : Bool :=
  a.numerator * b.denominator < b.numerator * a.denominator

def le (a b : Fraction) : Bool :=
  a.numerator * b.denominator ≤ b.numerator * a.denominator

def distance (a b : Fraction) : Fraction :=
  let x := a.numerator * b.denominator
  let y := b.numerator * a.denominator
  ⟨if x ≤ y then y - x else x - y, a.denominator * b.denominator⟩

def floorDiv (a : Fraction) (e : Int) : Nat :=
  if e < 0 then a.numerator * Nat.pow 10 (-e).toNat / a.denominator
  else a.numerator / (a.denominator * Nat.pow 10 e.toNat)

def leadBelow : (fuel : Nat) → Fraction → (e : Int) → Int
  | 0, _, e => e
  | fuel + 1, a, e => if (ofDecimal 1 e).le a then e else leadBelow fuel a (e - 1)

def lead (a : Fraction) : Int :=
  let whole := a.numerator / a.denominator
  if whole = 0 then leadBelow 400 a (-1) else ((Text.decimal whole).length - 1 : Nat)

end Fraction

/-- The reals that round to a double. -/
structure Interval where
  low : Fraction
  high : Fraction
  closed : Bool

namespace Interval

def around (m : Nat) (q : Int) : Interval where
  -- Below a power of two the next double is only half as far.
  low :=
    if m = Nat.pow 2 52 ∧ q ≠ -1074 then .ofDyadic (4 * m - 1) (q - 2)
    else .ofDyadic (2 * m - 1) (q - 1)
  high := .ofDyadic (2 * m + 1) (q - 1)
  closed := m % 2 = 0

def contains (i : Interval) (a : Fraction) : Bool :=
  if i.closed then i.low.le a && a.le i.high else i.low.lt a && a.lt i.high

end Interval

def searchGrid (value : Fraction) (i : Interval) : (fuel : Nat) → (e : Int) → Nat × Int
  | 0, e => (value.floorDiv e, e)
  | fuel + 1, e =>
    let below := value.floorDiv e
    let above := below + 1
    let a := Fraction.ofDecimal below e
    let b := Fraction.ofDecimal above e
    match i.contains a, i.contains b with
    | true, true =>
      let da := value.distance a
      let db := value.distance b
      if da.lt db then (below, e)
      else if db.lt da then (above, e)
      else (if below % 2 = 0 then below else above, e)
    | true, false => (below, e)
    | false, true => (above, e)
    | false, false => searchGrid value i fuel (e - 1)

/-- The shortest decimal of the double `m * 2 ^ q`, as a number and a power of ten. -/
def shortest (m : Nat) (q : Int) : Nat × Int :=
  let value := Fraction.ofDyadic m q
  searchGrid value (.around m q) 17 value.lead

/-- Writes a number by its digits: positional from `10 ^ -4` up to below `10 ^ 16`, with at least
one digit on both sides of the point, and with a two-digit exponent otherwise. -/
def place (digits : List Char) (lead : Int) : List Char :=
  if -4 ≤ lead ∧ lead < 16 then
    if lead < 0 then
      '0' :: '.' :: List.replicate (-lead - 1).toNat '0' ++ digits
    else
      let whole := lead.toNat + 1
      let fraction := digits.drop whole
      digits.take whole ++ List.replicate (whole - digits.length) '0'
        ++ '.' :: (if fraction.isEmpty then ['0'] else fraction)
  else
    let exponent := Text.decimal lead.natAbs
    let mantissa := match digits with
      | d :: e :: r => d :: '.' :: e :: r
      | r => r
    mantissa ++ 'e' :: (if lead < 0 then '-' else '+')
      :: (List.replicate (2 - exponent.length) '0' ++ exponent)

def significant (n : Nat) : List Char :=
  ((Text.decimal n).reverse.dropWhile (· = '0')).reverse

def floatText (x : Float) : String :=
  String.ofList <|
    match Binary.ofFloat x with
    | .notANumber => ['n', 'a', 'n']
    | .infinite negative => (if negative then ['-'] else []) ++ ['i', 'n', 'f']
    | .finite d =>
      let sign := if d.negative then ['-'] else []
      if d.mantissa = 0 then sign ++ ['0', '.', '0']
      else
        let (n, e) := shortest d.mantissa d.exponent
        sign ++ place (significant n) (e + (Text.decimal n).length - 1)

end ClientBuilder.Decimal
