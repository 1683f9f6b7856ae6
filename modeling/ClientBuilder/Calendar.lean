namespace ClientBuilder

structure Date where
  year : Nat
  month : Nat
  day : Nat
  deriving Repr, DecidableEq

structure Moment where
  date : Date
  hour : Nat
  minute : Nat
  second : Nat
  microsecond : Nat
  offset : Option Int
  deriving Repr, DecidableEq

namespace Date

def isLeap (year : Nat) : Bool :=
  year % 4 = 0 && (year % 100 ≠ 0 || year % 400 = 0)

def daysIn (year month : Nat) : Nat :=
  if month = 2 then if isLeap year then 29 else 28
  else if month = 4 ∨ month = 6 ∨ month = 9 ∨ month = 11 then 30
  else 31

def exists? (d : Date) : Bool :=
  1 ≤ d.year && d.year ≤ 9999 && 1 ≤ d.month && d.month ≤ 12 && 1 ≤ d.day
    && d.day ≤ daysIn d.year d.month

def ordinal (d : Date) : Nat :=
  let y := d.year - 1
  365 * y + y / 4 - y / 100 + y / 400
    + (List.range d.month).foldl (fun n m => if m = 0 then n else n + daysIn d.year m) 0 + d.day

end Date

namespace Moment

def exists? (m : Moment) : Bool :=
  m.date.exists? && m.hour < 24 && m.minute < 60 && m.second < 60 && m.microsecond < 1000000
    && (match m.offset with
      | some s => -86400 < s && s < 86400
      | none => true)

def localMicroseconds (m : Moment) : Int :=
  let seconds := ((m.date.ordinal * 24 + m.hour) * 60 + m.minute) * 60 + m.second
  (seconds * 1000000 + m.microsecond : Nat)

def instant? (m : Moment) : Option Int :=
  m.offset.map fun s => m.localMicroseconds - s * 1000000

end Moment

end ClientBuilder
