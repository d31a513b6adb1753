import Chip8.Journal.Record
import Chip8.Numeral.Double
import Chip8.Text.Quoted

namespace Chip8.Journal

def journalName : String := "chip8py"

/-- When and where a record was made: the time as entries show it, microseconds since the beginning of
the count of time and since the start of the program, and the numbers of the thread and the process. -/
structure Origin where
  time : String
  microseconds : Nat
  uptime : Nat
  thread : Nat
  process : Nat
  deriving DecidableEq, Repr

inductive Field where
  | text (value : String)
  | whole (value : Int)
  | real (value : Numeral.Binary)
  | nothing
  /-- All fields of the record, as they are shown. -/
  | everything (shown : String)
  deriving DecidableEq, Repr

namespace Field

def kind : Field → String
  | .text _ => "str"
  | .whole _ => "int"
  | .real _ => "float"
  | .nothing => "NoneType"
  | .everything _ => "dict"

def plain : Field → String
  | .text value => value
  | .whole value => toString value
  | .real value => String.ofList value.text
  | .nothing => "None"
  | .everything shown => shown

def quoted : Field → String
  | .text value => Text.quoted value
  | other => other.plain

def quotient (n d : Nat) : Field :=
  match Numeral.Binary.ofQuotient? n d with
  | some value => .real value
  | none => .nothing

end Field

def Record.fields (origin : Origin) (record : Record) : List (String × Field) := [
  ("name", .text journalName),
  ("msg", .text record.message),
  ("args", .nothing),
  ("levelname", .text record.level.name),
  ("levelno", .whole record.level.number),
  ("pathname", .text ""),
  ("filename", .text ""),
  ("module", .text ""),
  ("exc_info", .nothing),
  ("exc_text", .nothing),
  ("stack_info", .nothing),
  ("lineno", .whole 0),
  ("funcName", .nothing),
  ("created", .quotient origin.microseconds 1000000),
  ("msecs", .quotient (origin.microseconds / 1000 % 1000) 1),
  ("relativeCreated", .quotient origin.uptime 1000),
  ("thread", .whole origin.thread),
  ("threadName", .text "MainThread"),
  ("processName", .text "MainProcess"),
  ("process", .whole origin.process),
  ("message", .text record.message),
  ("asctime", .text origin.time)]

def Record.everything (origin : Origin) (record : Record) : Field :=
  .everything ("\x7b" ++
    ", ".intercalate ((record.fields origin).map fun (name, field) =>
      Text.quoted name ++ ": " ++ field.quoted) ++ "\x7d")

end Chip8.Journal
