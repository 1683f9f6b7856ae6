import ClientBuilder.Logging.Level
import ClientBuilder.Text.Basic

namespace ClientBuilder.Logging

def packageLogger : String :=
  "contractgen"

structure Record where
  logger : Text
  level : Level
  message : Text
  -- The line that the record was made at, where it is known.
  line : Option Int := none
  deriving Repr, DecidableEq

def afterBeginning? (beginning s : Text) : Option Text :=
  if beginning.isPrefixOf s then some (s.drop beginning.length) else none

def component (logger : Text) : Text :=
  match afterBeginning? (packageLogger ++ ".core.") logger with
  | some r => r
  | none => (afterBeginning? (packageLogger ++ ".") logger).getD logger

def coreLogger (component : String) : String :=
  packageLogger ++ ".core." ++ component

def Record.debug (component : String) (message : Text) : Record where
  logger := coreLogger component
  level := Level.debug
  message := message

def Record.info (component : String) (message : Text) : Record where
  logger := coreLogger component
  level := Level.info
  message := message

end ClientBuilder.Logging
