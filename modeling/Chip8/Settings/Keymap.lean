import Chip8.Settings.Preferences

namespace Chip8.Settings

inductive KeymapProblem where
  /-- A host key is not a text but of this type. -/
  | notText (type : String)
  /-- A key is no hexadecimal number. -/
  | notHex (key : String)
  deriving DecidableEq, Repr

/-- The wording of a problem. At most two hundred characters of a key are shown. -/
def KeymapProblem.message : KeymapProblem → String
  | .notText type => "'" ++ type ++ "' object has no attribute 'lower'"
  | .notHex key =>
      "invalid literal for int() with base 16: " ++
        String.ofList ((Text.quoted key).toList.take 200)

def Value.typeName : Value → String
  | .null => "NoneType"
  | .truth _ => "bool"
  | .whole _ => "int"
  | .real _ => "float"
  | .text _ => "str"
  | .moment _ => "date"
  | .list _ => "list"
  | .table _ => "dict"

def extendKeymap (keymap : Named Int) : Fields → Except KeymapProblem (Named Int)
  | [] => .ok keymap
  | (key, .text host) :: rest =>
      match Text.hexNumber? key with
      | some number => extendKeymap (Named.put (Text.lower host) number keymap) rest
      | none => .error (.notHex key)
  | (_, value) :: _ => .error (.notText value.typeName)

def keymapOf (keyboard : Fields) : Except KeymapProblem (Named Int) := extendKeymap [] keyboard

def Preferences.keymap (preferences : Preferences) : Named (Fin 16) :=
  preferences.keyboard.foldl (fun keymap binding => Named.put binding.name binding.index keymap) []

end Chip8.Settings
