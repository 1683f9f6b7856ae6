import ClientBuilder.CommandLine.Plan
import ClientBuilder.CommandLine.Report
import ClientBuilder.Logging.Logger

/-!
Runs of the program: what it writes, and how it ends. What a run depends on besides its arguments is
the tree of files and the level of the log in the environment.
-/

namespace ClientBuilder.CommandLine

/-- What a run depends on besides its arguments. -/
structure World where
  tree : FileTree
  -- The name of a log level in the environment.
  levelName : Option String := none

/-- Something that the program does not answer for. -/
inductive Crash where
  | loading (f : Fault)
  -- A piece of output holds a surrogate.
  | unwritable
  deriving Repr, DecidableEq

def Crash.message : Crash → String
  | loading .notUnicode => "The model file is not in UTF-8."
  | loading (.scalar _) =>
    "A scalar of the model file has no value of the kind that it is tagged with."
  | loading .wrongKind => "The model file holds a document of a wrong kind."
  | loading .tooDeep => "The collections of the model file are nested too deep."
  | loading (.path .tooLong) => "The path of the model file is too long."
  | loading (.path .forbidden) =>
    "A directory on the way to the model file may not be searched."
  | loading (.path .zeroCharacter) => "The path of the model file holds a zero character."
  | loading (.path .noBytes) => "The path of the model file cannot be written in bytes."
  | unwritable => "The output holds what cannot be written in UTF-8."

inductive Ending where
  | exit (code : Nat)
  | crash (c : Crash)
  deriving Repr, DecidableEq

structure Outcome where
  output : List Print := []
  -- The log, on the error stream.
  log : Text := []
  -- What is written on the error stream besides the log.
  complaints : List Print := []
  ending : Ending
  deriving Repr, DecidableEq

namespace Outcome

def exitCode (o : Outcome) : Nat :=
  match o.ending with
  | .exit code => code
  | .crash _ => 1

def stdout (colors : Bool) (o : Outcome) : String :=
  (renderAll colors o.output).shown

def stderr (colors : Bool) (o : Outcome) : String :=
  -- A surrogate is written by its number there.
  String.ofList ((o.log ++ renderAll colors o.complaints).flatMap Text.writtenPoint)

/-- The outcome of a run that writes a log and then some output. The first piece of output that
cannot be written ends the run. -/
def ofOutput (log : Text) (output : List Print) (code : Nat) : Outcome :=
  let written := output.takeWhile fun p => p.text.isWhole
  { output := written
    log := log
    ending := if written.length = output.length then .exit code else .crash .unwritable }

end Outcome

def usageHint (command : Option Command) : List Print :=
  let (usage, path) := match command with
    | none => (programUsage, programName)
    | some c => (c.usage, programName ++ " " ++ c.name)
  [.line usage, .line ("Try '" ++ path ++ " --help' for help."), .blank]

def printPage (p : Page) : List Print :=
  p.lines.map fun (s : String) => Print.line s

def helpPage : Option Command → Page
  | none => programPage
  | some c => c.page

def Stop.outcome : Stop → Outcome
  | .noArguments => { complaints := printPage programPage, ending := .exit 2 }
  | .help command => { output := printPage (helpPage command), ending := .exit 0 }
  | .version =>
    { output := [.line (programName ++ ", version " ++ CommandLine.version)], ending := .exit 0 }
  | .usage command e =>
    let hint := if e.showsUsage then usageHint command else []
    { complaints := hint ++ [.line ("Error: " ++ e.message)], ending := .exit 2 }
  | .badPath e => { ending := .crash (.loading (.path e)) }

def Settings.logger (s : Settings) (levelName : Option String) : Logging.Logger :=
  ({} : Logging.Logger).setup (Logging.Level.resolve s.wish levelName)

def ofReport {α : Type} (logger : Logging.Logger) (x : Logged Fault α) (print : α → List Print)
    (isGood : α → Bool) : Outcome :=
  let log := logger.writeAll x.records
  match x.outcome with
  | .ok r => .ofOutput log (print r) (if isGood r then 0 else 1)
  | .error f => { log := log, ending := .crash (.loading f) }

def Plan.run (w : World) (p : Plan) : Outcome :=
  let logger := p.settings.logger w.levelName
  match p.command with
  | .catalog =>
    .ofOutput [] (if p.json then printJson catalogJson else catalogText) 0
  | .check =>
    ofReport logger (ModelFile.check w.tree p.settings.model)
      (fun r => if p.json then printJson r.toJson else checkText r) (·.valid)
  | .synthesize =>
    ofReport logger (ModelFile.synthesize w.tree p.settings.model)
      (fun r => if p.json then printJson r.toJson else synthesisText p.settings.wish.quiet r)
      fun r => r.contract?.isSome

def run (w : World) (arguments : List Text) : Outcome :=
  match Plan.ofArguments w.tree arguments with
  | .ok p => p.run w
  | .error stop => stop.outcome

end ClientBuilder.CommandLine
