import Chip8.Journal.Template
import Chip8.Text.Lines

/-! A `FileSink` appends entries to a file. An attempt to write may fail and then leaves the file as
it was. Entries that could not be written are held back; with each new entry those held back are tried
again first, in their order, and then the new one, whatever became of the others.

An entry that no file can store is not held back: the attempt to write it ends the work. -/

namespace Chip8.Journal

/-- The entries in the file and those held back, oldest first, and the number of attempts so far. -/
structure FileSink where
  written : List Entry
  held : List Entry
  attempts : Nat
  deriving DecidableEq, Repr

namespace FileSink

def empty : FileSink := ⟨[], [], 0⟩

/-- An attempt to write an entry, which succeeds if the file takes the attempt of its number. -/
def attempt (accepts : Nat → Bool) (sink : FileSink) (entry : Entry) : FileSink :=
  if accepts sink.attempts then
    { sink with written := sink.written ++ [entry], attempts := sink.attempts + 1 }
  else { sink with held := sink.held ++ [entry], attempts := sink.attempts + 1 }

def add (accepts : Nat → Bool) (sink : FileSink) (entry : Entry) : FileSink :=
  (sink.held ++ [entry]).foldl (attempt accepts) { sink with held := [] }

def attemptsFor (accepts : Nat → Bool) (sink : FileSink) (entry : Entry) : List (Entry × Bool) :=
  (sink.held ++ [entry]).zipIdx.map fun (tried, k) => (tried, accepts (sink.attempts + k))

inductive Refusal where
  | flawed (reason : Flaw)
  /-- The file takes an entry that cannot be stored. -/
  | unstorable (reason : Text.Unstorable)
  deriving DecidableEq, Repr

def Refusal.message : Refusal → String
  | .flawed reason => reason.message
  | .unstorable reason => reason.message

/-- Takes a record by a template: the attempts that its entry causes, and the sink after them. -/
def take (accepts : Nat → Bool) (template : Template) (origin : Origin) (sink : FileSink)
    (record : Record) : Except Refusal (List (Entry × Bool) × FileSink) := do
  let entry ← (template.entry origin record).mapError Refusal.flawed
  let attempts := sink.attemptsFor accepts entry
  match attempts.findSome? fun (tried, taken) => if taken then Text.unstorable? tried else none with
  | some reason => .error (.unstorable reason)
  | none => .ok (attempts, sink.add accepts entry)

/-- The text of the file: each entry with a line end. A file without entries does not exist. -/
def text? (sink : FileSink) : Option String :=
  if sink.written = [] then none
  else some (String.join (sink.written.map fun entry => Text.ofPoints entry ++ "\n"))

def readBack? (sink : FileSink) : Option String := sink.text?.map Text.readBack

end FileSink

end Chip8.Journal
