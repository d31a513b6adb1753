import Chip8.Image.Folder
import Chip8.Journal.Template
import Chip8.Text.Lines

namespace Chip8.Journal

inductive Handler where
  | console
  | file (directory : String)
  deriving DecidableEq, Repr

structure Setup where
  threshold : Level
  handlers : List Handler
  deriving DecidableEq, Repr

namespace Setup

/-- Sets the journal up, with details or without, and with a directory for its file or without. What
was set up before is replaced. -/
def configure (details : Bool) (directory : Option String) : Setup :=
  ⟨if details then .debug else .info,
    .console :: (directory.map fun path => Handler.file (Path.normal path)).toList⟩

def accepted (setup : Setup) (records : List Record) : List Record :=
  records.filter fun record => setup.threshold.number ≤ record.level.number

def prepare (setup : Setup) (folder : Folder) : Except Folder.Refusal Folder :=
  setup.handlers.foldlM (fun around handler =>
    match handler with
    | .console => .ok around
    | .file directory => around.makeDirectory directory) folder

/-- The number of characters in the name of the file, which tells when it was set up. -/
def fileNameLength : Nat := 31

/-- Whether there can be a file in a directory: its path must not become too long. -/
def holdsFile (directory : String) : Bool :=
  directory.utf8ByteSize + 1 + fileNameLength ≤ Folder.maxPath

/-- The directories at or below the current one in which there is a file after records at a time, and
the lines of that file. -/
def files (setup : Setup) (time : String) (records : List Record) : List (String × List String) :=
  setup.handlers.filterMap fun handler =>
    match handler, setup.accepted records with
    | .console, _ | .file _, [] => none
    | .file path, taken =>
        if holdsFile path then
          (Path.inside? path).map fun directory =>
            (directory, Text.lines (String.join (taken.map fun record =>
              Template.standardEntry time record ++ "\n")))
        else none

end Setup

end Chip8.Journal
