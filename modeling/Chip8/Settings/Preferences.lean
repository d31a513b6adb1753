import Chip8.Instruction.Execution
import Chip8.Settings.Fields
import Chip8.Text.Case
import Chip8.Text.HexNumber
import Chip8.Text.Quoted

/-! # Preferences

What the settings say, once they have been found valid. The four tables must be there with their
names; numbers, truth values and the volume must be in range. The keyboard binds keys of the keypad,
named by hexadecimal numbers, to keys of the host: no key of the keypad twice, no key of the host
twice, whatever its case, and none that controls the program. The first violation is reported, in a
fixed order of the tables and in the order of the keyboard's entries.
-/

namespace Chip8.Settings

inductive Number where
  | whole (value : Int)
  | real (value : Float)

/-- A key of the keypad, as it was named, and the key of the host that stands for it. -/
structure Binding where
  key : String
  index : Fin 16
  host : String
  deriving DecidableEq, Repr

def Binding.name (binding : Binding) : String := Text.lower binding.host

structure Preferences where
  cyclesPerFrame : Int
  framesPerSecond : Int
  scale : Int
  dialect : Dialect
  soundEnabled : Bool
  frequency : Int
  volume : Number
  keyboard : List Binding

inductive Problem where
  | notTable (name : String)
  | missing (name : String)
  | notPositive (name : String)
  | notTruth (name : String)
  | volume
  | notHex (key : String)
  | noSuchKey (key : String)
  | sameKey (key earlier : String)
  | noHost (key : String)
  | reserved (key host : String)
  | sameHost (key earlier host : String)
  deriving DecidableEq, Repr

def Problem.message : Problem → String
  | .notTable name => "[" ++ name ++ "] must be a table"
  | .missing name => name
  | .notPositive name => name ++ " must be a positive integer"
  | .notTruth name => name ++ " must be a boolean"
  | .volume => "sound.volume must be a number between 0 and 1"
  | .notHex key => "keyboard." ++ key ++ " is not a hex digit"
  | .noSuchKey key => "keyboard." ++ key ++ " is not a keypad key (0-F)"
  | .sameKey key earlier =>
      "keyboard." ++ key ++ " and keyboard." ++ earlier ++ " name the same keypad key"
  | .noHost key => "keyboard." ++ key ++ " must be a non-empty key name"
  | .reserved key host =>
      "keyboard." ++ key ++ ": " ++ Text.quoted host ++ " is reserved for emulator controls"
  | .sameHost key earlier host =>
      "keyboard." ++ key ++ " and keyboard." ++ earlier ++ " share host key " ++ Text.quoted host

def reservedKeys : List String := ["escape", "f1", "f5", "p"]

def tableOf (fields : Fields) (name : String) : Except Problem Fields :=
  match Named.find? fields name with
  | some (.table inner) => .ok inner
  | _ => .error (.notTable name)

def valueOf (fields : Fields) (name : String) : Except Problem Value :=
  match Named.find? fields name with
  | some value => .ok value
  | none => .error (.missing name)

def positiveOf (fields : Fields) (table name : String) : Except Problem Int := do
  match ← valueOf fields name with
  | .whole value => if 0 < value then .ok value else .error (.notPositive (table ++ "." ++ name))
  | _ => .error (.notPositive (table ++ "." ++ name))

def truthOf (fields : Fields) (table name : String) : Except Problem Bool := do
  match ← valueOf fields name with
  | .truth value => .ok value
  | _ => .error (.notTruth (table ++ "." ++ name))

def volumeOf (fields : Fields) : Except Problem Number := do
  match ← valueOf fields "volume" with
  | .whole value => if 0 ≤ value ∧ value ≤ 1 then .ok (.whole value) else .error .volume
  | .real value => if 0.0 ≤ value ∧ value ≤ 1.0 then .ok (.real value) else .error .volume
  | _ => .error .volume

def bindingOf (earlier : List Binding) (key : String) (value : Value) : Except Problem Binding :=
  match Text.hexNumber? key with
  | none => .error (.notHex key)
  | some number =>
      if 0 ≤ number ∧ number < 16 then
        let index : Fin 16 := Fin.ofNat 16 number.toNat
        match earlier.find? fun binding => binding.index == index with
        | some other => .error (.sameKey key other.key)
        | none =>
            match value with
            | .text host =>
                if host = "" then .error (.noHost key)
                else
                  let binding : Binding := ⟨key, index, host⟩
                  if binding.name ∈ reservedKeys then .error (.reserved key host)
                  else
                    match earlier.find? fun other => other.name == binding.name with
                    | some other => .error (.sameHost key other.key host)
                    | none => .ok binding
            | _ => .error (.noHost key)
      else .error (.noSuchKey key)

def bindingsOf (earlier : List Binding) : Fields → Except Problem (List Binding)
  | [] => .ok earlier
  | (key, value) :: rest => do
      let binding ← bindingOf earlier key value
      bindingsOf (earlier ++ [binding]) rest

namespace Preferences

def ofFields (fields : Fields) : Except Problem Preferences := do
  let general ← tableOf fields "general"
  let dialect ← tableOf fields "quirks"
  let sound ← tableOf fields "sound"
  let keyboard ← tableOf fields "keyboard"
  let cyclesPerFrame ← positiveOf general "general" "cycles_per_frame"
  let framesPerSecond ← positiveOf general "general" "fps"
  let scale ← positiveOf general "general" "scale"
  let inclusiveTransfer ← truthOf dialect "quirks" "load_store_inclusive"
  let checkedJump ← truthOf dialect "quirks" "jump_v0_checked"
  let soundEnabled ← truthOf sound "sound" "enable"
  let frequency ← positiveOf sound "sound" "frequency"
  let volume ← volumeOf sound
  let bindings ← bindingsOf [] keyboard
  return ⟨cyclesPerFrame, framesPerSecond, scale, ⟨inclusiveTransfer, checkedJump⟩, soundEnabled,
    frequency, volume, bindings⟩

def fields (preferences : Preferences) : Fields := [
  ("general", .table [("cycles_per_frame", .whole preferences.cyclesPerFrame),
    ("fps", .whole preferences.framesPerSecond), ("scale", .whole preferences.scale)]),
  ("quirks", .table [("load_store_inclusive", .truth preferences.dialect.inclusiveTransfer),
    ("jump_v0_checked", .truth preferences.dialect.checkedJump)]),
  ("sound", .table [("enable", .truth preferences.soundEnabled),
    ("frequency", .whole preferences.frequency),
    ("volume",
      match preferences.volume with
      | .whole value => .whole value
      | .real value => .real value)]),
  ("keyboard", .table (preferences.keyboard.map fun binding => (binding.key, .text binding.host)))]

/-- The layout of the keypad on the left of a keyboard:

    1 2 3 C    1 2 3 4
    4 5 6 D    q w e r
    7 8 9 E    a s d f
    A 0 B F    z x c v
-/
def standardKeyboard : List Binding := [
  ⟨"1", 1, "1"⟩, ⟨"2", 2, "2"⟩, ⟨"3", 3, "3"⟩, ⟨"C", 12, "4"⟩,
  ⟨"4", 4, "q"⟩, ⟨"5", 5, "w"⟩, ⟨"6", 6, "e"⟩, ⟨"D", 13, "r"⟩,
  ⟨"7", 7, "a"⟩, ⟨"8", 8, "s"⟩, ⟨"9", 9, "d"⟩, ⟨"E", 14, "f"⟩,
  ⟨"A", 10, "z"⟩, ⟨"0", 0, "x"⟩, ⟨"B", 11, "c"⟩, ⟨"F", 15, "v"⟩]

def standard : Preferences :=
  ⟨10, 60, 10, .standard, true, 440, .real 0.25, standardKeyboard⟩

end Preferences

end Chip8.Settings
