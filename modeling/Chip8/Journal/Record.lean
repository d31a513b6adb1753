import Chip8.Fault

namespace Chip8.Journal

/-- How important a record is; a more important one has a higher number. -/
structure Level where
  number : Int
  deriving DecidableEq, Repr

namespace Level

def none : Level := ⟨0⟩

def debug : Level := ⟨10⟩

def info : Level := ⟨20⟩

def warning : Level := ⟨30⟩

def error : Level := ⟨40⟩

def critical : Level := ⟨50⟩

/-- The name of a level; a level without a name of its own is shown by its number. -/
def name (level : Level) : String :=
  if level = none then "NOTSET"
  else if level = debug then "DEBUG"
  else if level = info then "INFO"
  else if level = warning then "WARNING"
  else if level = error then "ERROR"
  else if level = critical then "CRITICAL"
  else "Level " ++ toString level.number

end Level

inductive Cause where
  | trap (stopped : Trap)
  | directory
  | encoding
  | grammar
  | invalid
  deriving DecidableEq, Repr

structure Record where
  level : Level
  message : String
  cause : Option Cause
  deriving DecidableEq, Repr

def debug (message : String) : Record := ⟨.debug, message, none⟩

def info (message : String) : Record := ⟨.info, message, none⟩

def warning (message : String) : Record := ⟨.warning, message, none⟩

def error (message : String) (cause : Option Cause) : Record := ⟨.error, message, cause⟩

end Chip8.Journal
