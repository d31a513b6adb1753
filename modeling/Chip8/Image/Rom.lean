import Chip8.Hardware.Memory
import Chip8.Image.Folder
import Chip8.Journal.Record

namespace Chip8

/-- A program image. Without a file its file name is empty. -/
structure Rom where
  file : String
  data : Array UInt8
  deriving DecidableEq, Repr

namespace Rom

def maxSize : Nat := Memory.programCapacity

/-- The name under which an image is shown: its file's name without the ending. -/
def name (rom : Rom) : String := if rom.file = "" then "<memory>" else Path.stem rom.file

def describe (rom : Rom) : String :=
  "<Rom file=" ++ Text.quoted rom.file ++ " size=" ++ toString rom.data.size ++ " bytes>"

inductive Refused where
  /-- It is no row of bytes but something of this type. -/
  | notBytes (type : String)
  | empty
  | tooLarge (size : Nat)
  | unreadable (path : String) (obstacle : Obstacle)
  | impossible
  deriving DecidableEq, Repr

def Refused.message : Refused → String
  | .notBytes type => "Expected bytes or bytearray, got " ++ type
  | .empty => "ROM is empty"
  | .tooLarge size =>
      "ROM too large: " ++ toString size ++ " bytes, maximum " ++ toString maxSize
  | .unreadable path obstacle =>
      "Failed to read file " ++ path ++ ": " ++ obstacle.message path
  | .impossible => "embedded null byte"

/-- An image or the reason why there is none, and what was put on record. -/
structure Reading where
  result : Except Refused Rom
  records : List Journal.Record

def ofBytes (data : Array UInt8) : Reading :=
  if data.size = 0 then ⟨.error .empty, []⟩
  else if maxSize < data.size then ⟨.error (.tooLarge data.size), []⟩
  else
    ⟨.ok ⟨"", data⟩,
      if data.size % 2 = 1 then
        [Journal.warning
          ("ROM has an odd length (" ++ toString data.size ++
            " bytes); last instruction is incomplete")]
      else []⟩

/-- Takes what was found under a file name as an image, which remembers the name. -/
def ofFile (path : String) : Found → Reading
  | .impossible => ⟨.error .impossible, []⟩
  | .obstacle obstacle => ⟨.error (.unreadable path obstacle), []⟩
  | .contents data =>
      match ofBytes data with
      | ⟨.error refused, records⟩ => ⟨.error refused, records⟩
      | ⟨.ok rom, records⟩ =>
          ⟨.ok { rom with file := path },
            records ++
              [Journal.debug ("Read " ++ toString rom.data.size ++ " bytes from " ++ path)]⟩

end Rom

end Chip8
