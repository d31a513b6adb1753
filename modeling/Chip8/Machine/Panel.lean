import Chip8.Machine.Operation
import Chip8.Machine.Report

namespace Chip8.Machine

variable (machine : Machine)

def onCore (change : Core → Core) : Machine := { machine with core := change machine.core }

def tryOnCore (change : Core → Except Fault Core) : Outcome Machine Unit :=
  match change machine.core with
  | .ok core => ⟨.ok (), { machine with core := core }, []⟩
  | .error fault => ⟨.error (.ofFault fault), machine, []⟩

/-- Why there is no register of a number: it is beyond the sixteen, beyond signed words of 64 bits, or
beyond unsigned ones too. -/
def registerFailure (x : Int) : Failure :=
  if -Nat.pow 2 63 ≤ x ∧ x < Nat.pow 2 63 then .noRegister x
  else if 0 ≤ x ∧ x < Nat.pow 2 64 then .registerBeyondSigned
  else .registerBeyondWord

/-- Puts the low eight bits of a number into a register. There are sixteen registers, which can also
be counted from the last one, by -1, to the first one. -/
def setV (x value : Int) : Outcome Machine Unit :=
  let index := if x < 0 then x + 16 else x
  if known : 0 ≤ index ∧ index < 16 then
    ⟨.ok (), machine.onCore fun core =>
      core.setV ⟨index.toNat, by omega⟩ (Numeral.lowByte value), []⟩
  else ⟨.error (registerFailure x), machine, []⟩

def setI (value : Int) : Machine := machine.onCore fun core => core.setI value

def setPc (value : Int) : Machine := machine.onCore fun core => core.setPc value

def setDelay (value : Int) : Machine :=
  machine.onCore fun core =>
    { core with timers := { core.timers with delay := Numeral.lowByte value } }

/-- Sets the sound timer. The tone follows at the next operation. -/
def setSound (value : Int) : Machine :=
  machine.onCore fun core =>
    { core with timers := { core.timers with sound := Numeral.lowByte value } }

def pushAddress (address : Int) : Outcome Machine Unit :=
  machine.tryOnCore fun core => do
    let stack ← core.stack.call address
    return { core with stack := stack }

def writeByte (address value : Int) : Outcome Machine Unit :=
  machine.tryOnCore fun core => do
    let memory ← core.memory.write address value
    return { core with memory := memory }

def readBytes (address : Int) (count : Nat) : Except Fault (List UInt8) :=
  match machine.core.memory.readAll address count with
  | (bytes, none) => .ok bytes
  | (_, some fault) => .error fault

def drawSprite (x y : Int) (sprite : List Int) : Bool × Machine :=
  let (screen, struck) := machine.core.screen.draw x y sprite
  (struck, machine.onCore fun core => { core with screen := screen })

def lastLine : Except Failure String :=
  match machine.lastInstruction with
  | some listing => .ok (machine.traceLine listing)
  | none => .error .noInstruction

end Chip8.Machine
