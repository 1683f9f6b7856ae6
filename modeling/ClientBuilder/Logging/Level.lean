import ClientBuilder.Text.Numeral

namespace ClientBuilder.Logging

abbrev Level :=
  Int

namespace Level

def unset : Level := 0
def debug : Level := 10
def info : Level := 20
def warning : Level := 30
def error : Level := 40
def critical : Level := 50

def name (level : Level) : String :=
  if level = unset then "NOTSET"
  else if level = debug then "DEBUG"
  else if level = info then "INFO"
  else if level = warning then "WARNING"
  else if level = error then "ERROR"
  else if level = critical then "CRITICAL"
  else "Level " ++ Text.intText level

def named : List (String × Level) :=
  [("NOTSET", unset), ("DEBUG", debug), ("INFO", info), ("WARN", warning), ("WARNING", warning),
    ("ERROR", error), ("CRITICAL", critical), ("FATAL", critical)]

def capital (c : Char) : Char :=
  -- Besides the ASCII letters, the dotless i and the long s have an ASCII capital.
  if c = 'ı' then 'I' else if c = 'ſ' then 'S' else c.toUpper

def ofName (name : Option String) : Level :=
  -- No name and an unknown one ask for warnings.
  match name with
  | none => warning
  | some s => (named.lookup (String.ofList (s.toList.map capital))).getD warning

def variableName : String :=
  "CONTRACTGEN_LOG_LEVEL"

structure Wish where
  debug : Bool := false
  verbose : Bool := false
  quiet : Bool := false
  deriving Repr, DecidableEq

/-- The level that is asked for. The most talkative wish counts; without a wish, the name in the
environment does. -/
def resolve (wish : Wish) (environment : Option String) : Level :=
  if wish.debug then debug
  else if wish.verbose then info
  else if wish.quiet then error
  else ofName environment

end Level

end ClientBuilder.Logging
