import ClientBuilder.Logging.Record

/-!
The logger of the program: which records are written, and how. Setting it up replaces whatever was
set up before, so that every record is written at most once. The detail of a line depends on the
level that was asked for.
-/

namespace ClientBuilder.Logging

inductive Format where
  -- Level, component, line number and message.
  | full
  -- Component and message.
  | brief
  -- The message alone.
  | bare
  deriving Repr, DecidableEq

namespace Format

def ofLevel (level : Level) : Format :=
  if level = Level.debug then full else if level = Level.info then brief else bare

def padRight (width : Nat) (s : String) : String :=
  s ++ String.ofList (List.replicate (width - s.length) ' ')

def lineText : Option Int → String
  -- A line number that is not known is written `N`.
  | some n => Text.intText n
  | none => "N"

def render (format : Format) (r : Record) : Text :=
  let text : Text := match format with
    | full =>
      padRight 5 r.level.name ++ " " ++ component r.logger ++ ":" ++ lineText r.line ++ " - "
        ++ r.message
    | brief => "[" ++ component r.logger ++ "] " ++ r.message
    | bare => r.message
  text ++ "\n"

end Format

structure Handler where
  level : Level
  format : Format
  deriving Repr, DecidableEq

def Handler.write (h : Handler) (r : Record) : Text :=
  if h.level ≤ r.level then h.format.render r else []

/-- The logger of the program. The loggers below it have no level of their own and hand on to it. -/
structure Logger where
  level : Level := Level.unset
  handlers : List Handler := []
  -- Whether records are handed on to the root of all loggers.
  propagates : Bool := true
  -- The handlers of the root of all loggers.
  rootHandlers : List Handler := []
  deriving Repr, DecidableEq

def lastHandler : Handler :=
  ⟨Level.warning, .bare⟩

namespace Logger

def rootLevel : Level :=
  Level.warning

def removeHandler (l : Logger) (h : Handler) : Logger :=
  { l with handlers := l.handlers.erase h }

def addHandler (l : Logger) (h : Handler) : Logger :=
  { l with handlers := l.handlers ++ [h] }

/-- The logger set up for a level: the handlers that are on are taken off one after another, and one
of the level comes in their place. -/
def setup (l : Logger) (level : Level) : Logger :=
  let cleared := l.handlers.foldl removeHandler l
  { cleared.addHandler ⟨level, .ofLevel level⟩ with level := level, propagates := false }

def effectiveLevel (l : Logger) : Level :=
  if l.level = Level.unset then rootLevel else l.level

def isEnabled (l : Logger) (level : Level) : Bool :=
  -- A record needs a positive level to count.
  0 < level && l.effectiveLevel ≤ level

def reached (l : Logger) : List Handler :=
  l.handlers ++ if l.propagates then l.rootHandlers else []

def write (l : Logger) (r : Record) : Text :=
  if l.isEnabled r.level then
    let handlers := if l.reached.isEmpty then [lastHandler] else l.reached
    handlers.flatMap fun h => h.write r
  else []

def writeAll (l : Logger) (records : List Record) : Text :=
  records.flatMap l.write

end Logger

inductive Event where
  | setup (level : Level)
  | record (r : Record)
  deriving Repr, DecidableEq

namespace Logger

def step (l : Logger) : Event → Logger × Text
  | .setup level => (l.setup level, [])
  | .record r => (l, l.write r)

def run (l : Logger) : List Event → List (Logger × Text)
  | [] => []
  | e :: r => l.step e :: run (l.step e).1 r

end Logger

end ClientBuilder.Logging
