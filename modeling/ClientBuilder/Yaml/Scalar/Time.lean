import ClientBuilder.Calendar
import ClientBuilder.Text.Numeral
import ClientBuilder.Yaml.Cursor

namespace ClientBuilder.Yaml

structure Timestamp where
  date : Date
  -- Whether year, month and day have four, two and two digits.
  fullWidth : Bool
  -- Without a time of day it is a day.
  time : Option Moment
  deriving Repr, DecidableEq

namespace Timestamp

def number? (least most : Nat) (s : List Char) : Option (List Char × List Char) :=
  let digits := (s.take most).takeWhile Char.isDigit
  if least ≤ digits.length then some (digits, s.drop digits.length) else none

def after? (c : Char) : List Char → Option (List Char)
  | x :: r => if x = c then some r else none
  | [] => none

def afterDay? : List Char → Option (List Char)
  | x :: r =>
    if x = 'T' ∨ x = 't' then some r
    else if isWhite x then some (r.dropWhile isWhite)
    else none
  | [] => none

def microseconds (digits : List Char) : Nat :=
  -- Further digits do not count.
  let six := digits.take 6
  Text.ofDecimal (six ++ List.replicate (6 - six.length) '0')

def offset? (s : List Char) : Option (Option Int) :=
  if s.isEmpty then some none
  else
    match s.dropWhile isWhite with
    | ['Z'] => some (some 0)
    | sign :: r => do
      if sign ≠ '+' ∧ sign ≠ '-' then none
      let (hours, r) ← number? 1 2 r
      let minutes ← match r with
        | [] => some []
        | ':' :: r => do
          let (minutes, r) ← number? 2 2 r
          if r.isEmpty then some minutes else none
        | _ => none
      let seconds : Int := (Text.ofDecimal hours * 60 + Text.ofDecimal minutes : Nat) * 60
      return some (if sign = '-' then -seconds else seconds)
    | [] => none

def time? (date : Date) (s : List Char) : Option Moment := do
  let (hour, s) ← number? 1 2 s
  let s ← after? ':' s
  let (minute, s) ← number? 2 2 s
  let s ← after? ':' s
  let (second, s) ← number? 2 2 s
  let (fraction, s) := match s with
    | '.' :: r => r.span Char.isDigit
    | r => ([], r)
  let offset ← offset? s
  return ⟨date, Text.ofDecimal hour, Text.ofDecimal minute, Text.ofDecimal second,
    microseconds fraction, offset⟩

def ofChars? (s : List Char) : Option Timestamp := do
  let (year, s) ← number? 4 4 s
  let s ← after? '-' s
  let (month, s) ← number? 1 2 s
  let s ← after? '-' s
  let (day, s) ← number? 1 2 s
  let date : Date := ⟨Text.ofDecimal year, Text.ofDecimal month, Text.ofDecimal day⟩
  let full := month.length = 2 && day.length = 2
  if s.isEmpty then return ⟨date, full, none⟩
  let s ← afterDay? s
  let m ← time? date s
  return ⟨date, full, some m⟩

end Timestamp

end ClientBuilder.Yaml
