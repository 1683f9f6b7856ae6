import ClientBuilder.CommandLine.Suggestion

namespace ClientBuilder.CommandLine

structure Flag (ι : Type) where
  id : ι
  short : Option Char := none
  long : List String
  -- What the value of the option is called, if it takes one.
  value : Option String := none
  help : String

namespace Flag

variable {ι : Type}

def takesValue (f : Flag ι) : Bool :=
  f.value.isSome

def shortName (c : Char) : String :=
  String.ofList ['-', c]

def longName (name : String) : String :=
  "--" ++ name

def names (f : Flag ι) : List String :=
  (f.short.map shortName).toList ++ f.long.map longName

def label (f : Flag ι) : String :=
  String.intercalate ", " f.names ++ (f.value.map (" " ++ ·)).getD ""

end Flag

inductive OptionError where
  -- No option has the name; some may have one that is near it.
  | unknown (name : Text) (near : List String)
  | needsValue (name : Text)
  | takesNoValue (name : Text)
  deriving Repr, DecidableEq

def OptionError.message : OptionError → Text
  | unknown name near => "No such option " ++ Text.quoted name ++ "." ++ Suggestion.question near
  | needsValue name => "Option " ++ Text.quoted name ++ " requires an argument."
  | takesNoValue name => "Option " ++ Text.quoted name ++ " does not take a value."

structure Given (ι : Type) where
  id : ι
  value : Option Text := none
  deriving Repr, DecidableEq

structure Reading (ι : Type) where
  given : List (Given ι)
  -- The option that has no value yet, with the name that it is given under.
  open? : Option (ι × Text) := none

structure Arguments (ι : Type) where
  given : List (Given ι)
  rest : List Text

namespace Arguments

variable {ι : Type}

def behindOptions (options : List (Given ι)) (a : Arguments ι) : Arguments ι :=
  { a with given := options ++ a.given }

def behindOther (argument : Text) (a : Arguments ι) : Arguments ι :=
  { a with rest := argument :: a.rest }

end Arguments

namespace Options

variable {ι : Type}

abbrev Outcome (α : Type) :=
  Except OptionError α

def readLong (f : Flag ι) (name : Text) (value : Option Text) : Outcome (Reading ι) :=
  if f.takesValue then
    match value with
    | some v => .ok ⟨[⟨f.id, some v⟩], none⟩
    | none => .ok ⟨[], some (f.id, name)⟩
  else
    match value with
    | some _ => .error (.takesNoValue name)
    | none => .ok ⟨[⟨f.id, none⟩], none⟩

def readShorts (flags : List (Flag ι)) : Text → Outcome (Reading ι)
  | [] => .ok ⟨[], none⟩
  | c :: r =>
    let name : Text := [.char '-', c]
    match flags.find? fun f => f.short.map .char = some c with
    | none => .error (.unknown name [])
    | some f =>
      if f.takesValue then
        -- All letters after it are its value.
        if r.isEmpty then .ok ⟨[], some (f.id, name)⟩
        else .ok ⟨[⟨f.id, some r⟩], none⟩
      else do
        let more ← readShorts flags r
        return { more with given := ⟨f.id, none⟩ :: more.given }

def splitValue (s : Text) : Text × Option Text :=
  let name := s.takeWhile (· ≠ .char '=')
  match s.drop name.length with
  | [] => (name, none)
  | _ :: value => (name, some value)

def isOption (argument : Text) : Bool :=
  argument.head? = some (.char '-') && 1 < argument.length

def endMark : Text :=
  "--"

def longNames (flags : List (Flag ι)) : List String :=
  flags.flatMap fun f => f.long.map Flag.longName

def readArgument (flags : List (Flag ι)) (argument : Text) : Outcome (Reading ι) :=
  let (name, value) := splitValue argument
  match flags.find? fun f => f.long.any fun n => Text.ofString (Flag.longName n) = name with
  | some f => readLong f name value
  | none =>
    if endMark.isPrefixOf argument then
      .error (.unknown name (Suggestion.near (longNames flags) name))
    else readShorts flags (argument.drop 1)

/-- Reads a row of arguments. Unless options may stand behind other arguments, the first other
argument ends the options. -/
def read (flags : List (Flag ι)) (mixed : Bool) : List Text → Outcome (Arguments ι)
  | [] => .ok ⟨[], []⟩
  | a :: r =>
    if a = endMark then .ok ⟨[], r⟩
    else if isOption a then
      match readArgument flags a with
      | .error e => .error e
      | .ok ⟨given, none⟩ => (read flags mixed r).map (Arguments.behindOptions given)
      | .ok ⟨given, some (id, name)⟩ =>
        match r with
        | [] => .error (.needsValue name)
        | v :: r => (read flags mixed r).map (Arguments.behindOptions (given.concat ⟨id, some v⟩))
    else if mixed then (read flags mixed r).map (Arguments.behindOther a)
    else .ok ⟨[], a :: r⟩

end Options

end ClientBuilder.CommandLine
