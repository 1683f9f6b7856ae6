import ClientBuilder.Value.Basic

namespace ClientBuilder

inductive Key where
  | null
  | int (n : Int)
  | fraction (x : Decimal.Dyadic)
  | infinite (negative : Bool)
  -- What is no number equals nothing; it is only the same key as itself, by where it comes from.
  | notANumber (origin : Option Nat)
  | text (s : Text)
  | bytes (content : List UInt8)
  | date (d : Date)
  | localTime (microseconds : Int)
  | instant (microseconds : Int)
  deriving Repr, DecidableEq

namespace Value

def key? : Value → Option Key
  -- A collection is no key, and what is no number counts as of one origin.
  | null => some .null
  | bool b => some (.int (if b then 1 else 0))
  | int n => some (.int n)
  | float x => some <|
    match Decimal.Binary.ofFloat x with
    | .notANumber => .notANumber none
    | .infinite negative => .infinite negative
    | .finite d =>
      match d.toInt? with
      | some n => .int n
      | none => .fraction d.reduce
  | text s => some (.text s)
  | bytes content => some (.bytes content)
  | date d => some (.date d)
  | moment m => some <|
    match m.instant? with
    | some t => .instant t
    | none => .localTime m.localMicroseconds
  | list _ => none
  | tuple _ => none
  | set _ => none
  | mapping _ => none

end Value

structure KeyEntry (α : Type) where
  key : Key
  name : Value
  value : α

/-- Puts an entry into a list of entries: where its key stands, which keeps the name that it has
there, or else at the end. -/
def KeyEntry.put {α : Type} (entries : List (KeyEntry α)) (e : KeyEntry α) : List (KeyEntry α) :=
  if entries.any fun x => x.key = e.key then
    entries.map fun x => if x.key = e.key then { x with value := e.value } else x
  else entries ++ [e]

end ClientBuilder
