import Chip8.Journal.Record
import Chip8.Settings.Fields
import Chip8.Settings.Preferences
import Chip8.Settings.Toml.Document

namespace Chip8.Settings

inductive Source where
  | missing
  | directory
  | contents (bytes : Array UInt8)

structure Loaded where
  fields : Fields
  preferences : Preferences
  records : List Journal.Record

def Loaded.fallback (reason : String) (cause : Journal.Cause) : Loaded :=
  ⟨Preferences.standard.fields, Preferences.standard,
    [Journal.error ("Failed to load config: " ++ reason) (some cause)]⟩

def longNumberMessage (digits : Nat) : String :=
  "Exceeds the limit (" ++ toString Toml.maxDigits ++
    " digits) for integer string conversion: value has " ++ toString digits ++
    " digits; use sys.set_int_max_str_digits() to increase the limit"

/-- Why loading may break down, so that not even the standard settings hold. -/
inductive Collapse where
  | tooDeep
  deriving DecidableEq, Repr

def Collapse.message : Collapse → String
  | .tooDeep => "maximum recursion depth exceeded"

def ofOverrides (overrides : Fields) : Loaded :=
  let merged := mergeFields Preferences.standard.fields overrides
  match Preferences.ofFields merged with
  | .ok preferences => ⟨merged, preferences, []⟩
  | .error problem => .fallback problem.message .invalid

/-- Whatever keeps a file from being read is put on record, with one exception: where values stand in
each other too deep, loading breaks down. -/
def load : Source → Except Collapse Loaded
  | .missing => .ok ⟨Preferences.standard.fields, Preferences.standard, []⟩
  | .directory => .ok (.fallback "the file is a directory" .directory)
  | .contents bytes =>
      match String.fromUTF8? ⟨bytes⟩ with
      | none => .ok (.fallback "the file is not text" .encoding)
      | some text =>
          match Toml.read text with
          | .error .grammar => .ok (.fallback "the file holds no tables" .grammar)
          | .error (.longNumber digits) => .ok (.fallback (longNumberMessage digits) .invalid)
          | .error .tooDeep => .error .tooDeep
          | .ok overrides => .ok (ofOverrides overrides)

end Chip8.Settings
