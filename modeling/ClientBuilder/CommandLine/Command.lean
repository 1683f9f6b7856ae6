import ClientBuilder.CommandLine.Help

namespace ClientBuilder.CommandLine

def programName : String :=
  "contractgen"

def version : String :=
  "0.1.0"

inductive Command where
  | catalog
  | check
  | synthesize
  deriving Repr, DecidableEq

namespace Command

def all : List Command :=
  [catalog, check, synthesize]

def name : Command → String
  | catalog => "catalog"
  | check => "check"
  | synthesize => "synthesize"

def description : Command → String
  | catalog => "List the method catalog in evaluation order."
  | check => "Validate service.yml and check for setter name collisions."
  | synthesize => "Synthesize the base builder contract for the service model."

def ofName? (name : Text) : Option Command :=
  all.find? fun c => Text.ofString c.name = name

end Command

inductive ProgramOption where
  | version
  | verbose
  | quiet
  | debug
  | model
  | help
  deriving Repr, DecidableEq

inductive CommandOption where
  | json
  | help
  deriving Repr, DecidableEq

def helpOfHelp : String :=
  "Show this message and exit."

def programFlags : List (Flag ProgramOption) :=
  [{ id := .version, long := ["version"], help := "Show the version and exit." },
    { id := .verbose, short := 'v', long := ["verbose"], help := "Enable verbose output." },
    { id := .quiet, short := 'q', long := ["quiet"], help := "Suppress non-essential output." },
    { id := .debug, long := ["debug"], help := "Enable debug logging (very verbose)." },
    { id := .model, short := 'm', long := ["model"], value := "PATH",
      help := "Path to service.yml (default: auto-detect)." },
    { id := .help, long := ["help"], help := helpOfHelp }]

def commandFlags : List (Flag CommandOption) :=
  [{ id := .json, long := ["json-output", "json"], help := "Output as JSON." },
    { id := .help, long := ["help"], help := helpOfHelp }]

def programUsage : String :=
  "Usage: " ++ programName ++ " [OPTIONS] COMMAND [ARGS]..."

def Command.usage (c : Command) : String :=
  "Usage: " ++ programName ++ " " ++ c.name ++ " [OPTIONS]"

def programPage : Page where
  usage := programUsage
  description := ["Builder contract synthesizer: derive shared client builder methods from a",
    "service model."]
  options := optionRows programFlags
  commands := Command.all.map fun c => (c.name, c.description)

def Command.page (c : Command) : Page where
  usage := c.usage
  description := [c.description]
  options := optionRows commandFlags

end ClientBuilder.CommandLine
