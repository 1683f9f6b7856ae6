import ClientBuilder.CommandLine.Command
import ClientBuilder.FileTree.Basic
import ClientBuilder.Logging.Level

namespace ClientBuilder.CommandLine

inductive UsageError where
  | option (e : OptionError)
  -- No command has the name; some may have one that is near it.
  | unknownCommand (name : Text) (near : List String)
  | missingCommand
  | extraArguments (arguments : List Text)
  -- The file or directory that the path of the model leads to may not be read.
  | unreadableModel (path : Text)
  deriving Repr, DecidableEq

namespace UsageError

def message : UsageError → Text
  | option e => e.message
  | unknownCommand name near =>
    "No such command " ++ Text.quoted name ++ "." ++ Suggestion.question near
  | missingCommand => "Missing command."
  | extraArguments arguments =>
    "Got unexpected extra " ++ (if arguments.length = 1 then "argument" else "arguments") ++ " ("
      ++ Text.join " " arguments ++ ")"
  | unreadableModel path =>
    "Invalid value for '--model' / '-m': Path " ++ Text.quoted (Path.displayed path)
      ++ " is not readable."

def showsUsage : UsageError → Bool
  | option (.unknown _ _) => true
  | option _ => false
  | _ => true

end UsageError

inductive Stop where
  -- There are no arguments.
  | noArguments
  -- The help page of the program, or of a command, is asked for.
  | help (command : Option Command)
  | version
  -- The arguments of the program, or of a command, are wrong.
  | usage (command : Option Command) (e : UsageError)
  -- The path of the model names no place at all.
  | badPath (e : PathError)
  deriving Repr, DecidableEq

structure Settings where
  wish : Logging.Level.Wish := {}
  model : Option Path := none
  deriving Repr, DecidableEq

structure Plan where
  settings : Settings
  command : Command
  json : Bool
  deriving Repr, DecidableEq

namespace Plan

def has {ι : Type} [DecidableEq ι] (given : List (Given ι)) (id : ι) : Bool :=
  given.any fun g => g.id = id

def lastValue {ι : Type} [DecidableEq ι] (given : List (Given ι)) (id : ι) : Option Text :=
  (given.filter fun g => g.id = id).getLast?.bind Given.value

/-- The path of the model; an empty text is none. A path that leads nowhere is no mistake, but what
a path leads to has to be readable. -/
def modelPath (t : FileTree) (text : Option Text) : Except Stop (Option Path) :=
  match text with
  | none => .ok none
  | some s =>
    let p := Path.ofText s
    match p.fault? with
    | some e => .error (.badPath e)
    | none =>
      if t.refuses s then .error (.usage none (.unreadableModel s))
      else .ok (if s = [] then none else some p)

def programStop? (g : Given ProgramOption) : Option Stop :=
  match g.id with
  | .help => some (.help none)
  | .version => some .version
  | _ => none

def readProgram (t : FileTree) (arguments : List Text) : Except Stop (Settings × List Text) :=
  match Options.read programFlags false arguments with
  | .error e => .error (.usage none (.option e))
  | .ok a =>
    match a.given.findSome? programStop? with
    | some stop => .error stop
    | none => do
      let model ← modelPath t (lastValue a.given .model)
      let wish : Logging.Level.Wish :=
        ⟨has a.given .debug, has a.given .verbose, has a.given .quiet⟩
      return (⟨wish, model⟩, a.rest)

def readCommand (c : Command) (arguments : List Text) : Except Stop Bool :=
  match Options.read commandFlags true arguments with
  | .error e => .error (.usage (some c) (.option e))
  | .ok a =>
    if has a.given .help then .error (.help (some c))
    else if a.rest.isEmpty then .ok (has a.given .json)
    else .error (.usage (some c) (.extraArguments a.rest))

/-- Reads a row of arguments. What is no command, but looks like options, is read as options once
more before it is refused. -/
def ofArguments (t : FileTree) (arguments : List Text) : Except Stop Plan := do
  if arguments.isEmpty then throw .noArguments
  let (settings, rest) ← readProgram t arguments
  match rest with
  | [] => throw (.usage none .missingCommand)
  | name :: rest =>
    match Command.ofName? name with
    | some c => return ⟨settings, c, ← readCommand c rest⟩
    | none =>
      -- Behind the end of the options, help and version can still be asked for here.
      let _ ← readProgram t (name :: rest)
      let near := Suggestion.near (Command.all.map Command.name) name
      throw (.usage none (.unknownCommand name near))

end Plan

end ClientBuilder.CommandLine
