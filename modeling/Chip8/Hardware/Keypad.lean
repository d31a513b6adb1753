import Chip8.Fault

namespace Chip8

structure Keypad where
  down : Vector Bool 16
  deriving DecidableEq, Repr

namespace Keypad

def released : Keypad := ⟨Vector.replicate 16 false⟩

def key? (index : Int) : Except Failure (Fin 16) :=
  if known : 0 ≤ index ∧ index < 16 then .ok ⟨index.toNat, by omega⟩ else .error (.noKey index)

def set (keypad : Keypad) (index : Int) (pressed : Bool) : Except Failure Keypad := do
  let key ← key? index
  return ⟨keypad.down.setIfInBounds key pressed⟩

def isPressed (keypad : Keypad) (key : Fin 16) : Bool := keypad.down.get key

theorem isPressed_set {keypad after : Keypad} {index : Int} {pressed : Bool}
    (done : keypad.set index pressed = .ok after) (key : Fin 16) :
    after.isPressed key = if (key.val : Int) = index then pressed else keypad.isPressed key := by
  unfold set key? at done
  split at done
  · rename_i known
    cases done
    have entry (row : Vector Bool 16) : row.get key = row[key.val] := rfl
    simp only [isPressed, entry, Vector.getElem_setIfInBounds]
    by_cases same : index.toNat = key.val
    · have named : (key.val : Int) = index := by omega
      rw [if_pos same, if_pos named]
    · have apart : (key.val : Int) ≠ index := by omega
      rw [if_neg same, if_neg apart]
  · cases done

def pressed (keypad : Keypad) : List (Fin 16) := (List.finRange 16).filter keypad.isPressed

def firstPressed (keypad : Keypad) : Option (Fin 16) := (List.finRange 16).find? keypad.isPressed

def describe (keypad : Keypad) : String :=
  let shown := keypad.pressed.map fun key => "'" ++ Numeral.hex 0 key.val ++ "'"
  "<Keypad pressed=[" ++ ", ".intercalate shown ++ "]>"

end Keypad

end Chip8
