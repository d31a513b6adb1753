import Chip8.Hardware.CallStack
import Chip8.Hardware.Keypad
import Chip8.Hardware.Memory
import Chip8.Hardware.Screen
import Chip8.Hardware.Timers

namespace Chip8

/-- The processor's own state. The index and the program counter may be set to any integer from
outside; instructions keep them within sixteen bits. -/
structure Registers where
  v : Vector UInt8 16
  i : Int
  pc : Int
  opcode : Opcode
  cycles : Nat
  halted : Bool
  deriving DecidableEq, Repr

namespace Registers

/-- The registers at power-on: zeros, and the program counter at the start of the program. -/
def powerOn : Registers where
  v := Vector.replicate 16 0
  i := 0
  pc := Memory.programStart
  opcode := .ofInt 0
  cycles := 0
  halted := false

def set (registers : Registers) (x : Fin 16) (value : UInt8) : Registers :=
  { registers with v := registers.v.set x value }

/-- Puts bytes into the registers from `x` on, as long as there are registers. -/
def setAll (registers : Registers) (x : Nat) : List UInt8 → Registers
  | [] => registers
  | byte :: rest =>
      if known : x < 16 then (registers.set ⟨x, known⟩ byte).setAll (x + 1) rest else registers

end Registers

/-- An endless supply of random bytes, and how many have been drawn from it. -/
structure RandomSource where
  bytes : Nat → UInt8
  drawn : Nat

def RandomSource.next (source : RandomSource) : UInt8 × RandomSource :=
  (source.bytes source.drawn, { source with drawn := source.drawn + 1 })

structure Core where
  registers : Registers
  memory : Memory
  stack : CallStack
  screen : Screen
  keypad : Keypad
  timers : Timers
  random : RandomSource

namespace Core

def powerOn (random : RandomSource) : Core where
  registers := .powerOn
  memory := .powerOn
  stack := .empty
  screen := .dark
  keypad := .released
  timers := .stopped
  random := random

variable (core : Core)

def v (x : Fin 16) : UInt8 := core.registers.v[x]

def setV (x : Fin 16) (value : UInt8) : Core :=
  { core with registers := core.registers.set x value }

def setI (value : Int) : Core := { core with registers := { core.registers with i := value } }

def setPc (value : Int) : Core := { core with registers := { core.registers with pc := value } }

def skipIf (condition : Bool) : Core :=
  if condition then core.setPc (core.registers.pc + 2) else core

def setFlag (flag : Bool) : Core := core.setV 15 (if flag then 1 else 0)

end Core

end Chip8
