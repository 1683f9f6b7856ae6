import ClientBuilder.Decimal.Shortest
import ClientBuilder.Text.Quoted
import ClientBuilder.Value.Basic

namespace ClientBuilder.Value

def enclosed (start stop : String) (parts : List String) : String :=
  start ++ String.intercalate ", " parts ++ stop

def argumentText (arguments : List String) : String :=
  enclosed "(" ")" arguments

def offsetText (seconds : Int) : String :=
  if seconds = 0 then "datetime.timezone.utc"
  else
    let span := if seconds < 0 then
        ["days=-1", "seconds=" ++ Text.intText (seconds + 86400)]
      else ["seconds=" ++ Text.intText seconds]
    "datetime.timezone(datetime.timedelta" ++ argumentText span ++ ")"

def dateText (d : Date) : String :=
  "datetime.date" ++ argumentText ([d.year, d.month, d.day].map Text.natText)

def momentText (m : Moment) : String :=
  let exact := if m.microsecond ≠ 0 then [m.second, m.microsecond]
    else if m.second ≠ 0 then [m.second]
    else []
  let numbers := [m.date.year, m.date.month, m.date.day, m.hour, m.minute] ++ exact
  let zone := match m.offset with
    | some s => ["tzinfo=" ++ offsetText s]
    | none => []
  "datetime.datetime" ++ argumentText (numbers.map Text.natText ++ zone)

def tupleText : List String → String
  | [part] => "(" ++ part ++ ",)"
  | parts => argumentText parts

def setText : List String → String
  | [] => "set()"
  | parts => enclosed "\x7b" "\x7d" parts

mutual

def literal : Value → String
  | null => "None"
  | bool b => if b then "True" else "False"
  | int n => Text.intText n
  | float x => Decimal.floatText x
  | text s => Text.quoted s
  | bytes content => Text.quotedBytes content
  | date d => dateText d
  | moment m => momentText m
  | list items => enclosed "[" "]" (literals items)
  | tuple items => tupleText (literals items)
  | set items => setText (literals items)
  | mapping pairs => enclosed "\x7b" "\x7d" (pairLiterals pairs)

def literals : List Value → List String
  | [] => []
  | v :: r => literal v :: literals r

def pairLiterals : List (Value × Value) → List String
  | [] => []
  | (k, v) :: r => (literal k ++ ": " ++ literal v) :: pairLiterals r

end

def shown : Value → Text
  | text s => s
  | v => literal v

def keyName : Value → String
  -- A truth value is named as a number, and an integer only if it is not overlong.
  | bool b => if b then "1" else "0"
  | int n => if Text.isOverlong n then "<unprintable int object>" else Text.intText n
  | text s => s.shown
  | v => literal v

end ClientBuilder.Value
