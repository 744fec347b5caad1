import DesiredState.Text.Basic

/-!
# Log records

A record has a level, the name of the logger that made it, and a message. Levels are numbers; five
of them have names.
-/

namespace DesiredState.Log

/-- The level of a record. -/
abbrev Level := Int

namespace Level

def debug : Level := 10
def info : Level := 20
def warning : Level := 30
def error : Level := 40
def critical : Level := 50

/-- The name of a level; a number without a name is named for itself. -/
def name (l : Level) : Text :=
  if l = critical then "CRITICAL"
  else if l = error then "ERROR"
  else if l = warning then "WARNING"
  else if l = info then "INFO"
  else if l = debug then "DEBUG"
  else if l = 0 then "NOTSET"
  else ("Level " : Text) ++ Text.ofInt l

end Level

/-- One message of a logger. -/
structure Record where
  level : Level
  logger : Text
  message : Text
  deriving DecidableEq

end DesiredState.Log
