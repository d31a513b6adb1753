import Chip8.Hardware.Core
import Chip8.Instruction.Basic

/-! # What instructions do

`Instruction.execute` gives the core after an instruction, whose program counter is already past
the instruction's word, and the failure that stopped it, if one did. Every instruction checks what
it needs before it changes anything, except for those that transfer several bytes: these stop at
the first byte that cannot be transferred and keep what was transferred before it.
-/

namespace Chip8

/-- Where machines of this kind differ: whether `FX55` and `FX65` include the register `Vx`, and
whether `BNNN` refuses a target outside the program instead of taking it modulo 4096. -/
structure Dialect where
  inclusiveTransfer : Bool
  checkedJump : Bool
  deriving DecidableEq, Repr

namespace Dialect

def standard : Dialect := ⟨true, true⟩

def span (dialect : Dialect) (x : Reg) : Nat :=
  if dialect.inclusiveTransfer then x.val + 1 else x.val

end Dialect

/-- The result of an operation on `a` and `b`, and the flag it sets, if it sets one. Additions set
the carry, subtractions the absence of a borrow, shifts the bit that falls out. -/
def Arith.apply (a b : UInt8) : Arith → UInt8 × Option Bool
  | .copy => (b, none)
  | .or => (a ||| b, none)
  | .and => (a &&& b, none)
  | .xor => (a ^^^ b, none)
  | .add => (a + b, some (255 < a.toNat + b.toNat))
  | .sub => (a - b, some (b ≤ a))
  | .shiftRight => (a >>> 1, some (a.toNat % 2 = 1))
  | .subFrom => (b - a, some (a ≤ b))
  | .shiftLeft => (a <<< 1, some (128 ≤ a.toNat))

/-- The key that a register names by its low four bits. -/
def Core.keyOf (core : Core) (x : Reg) : Fin 16 := ⟨(core.v x).toNat % 16, by omega⟩

def Condition.holds (core : Core) : Condition → Bool
  | .byteEq x byte => core.v x == byte
  | .byteNe x byte => core.v x != byte
  | .regEq x y => core.v x == core.v y
  | .regNe x y => core.v x != core.v y
  | .keyDown x => core.keypad.isPressed (core.keyOf x)
  | .keyUp x => !core.keypad.isPressed (core.keyOf x)

def decimalDigits (value : UInt8) : List UInt8 := [value / 100, value / 10 % 10, value % 10]

namespace Core

/-- Computes with two registers. The flag is written last, so that it wins if `x` is `VF`. -/
def compute (core : Core) (op : Arith) (x y : Reg) : Core :=
  let (value, flag) := op.apply (core.v x) (core.v y)
  match flag with
  | none => core.setV x value
  | some flag => (core.setV x value).setFlag flag

def writeAtIndex (core : Core) (bytes : List UInt8) : Core × Option Failure :=
  let (memory, fault) := core.memory.writeAll core.registers.i bytes
  ({ core with memory := memory }, fault.map .ofFault)

def readAtIndex (core : Core) (count : Nat) : Core × Option Failure :=
  let (bytes, fault) := core.memory.readAll core.registers.i count
  ({ core with registers := core.registers.setAll 0 bytes }, fault.map .ofFault)

/-- Draws the sprite at the index and sets the flag if a lit pixel was struck. -/
def drawAtIndex (core : Core) (x y : Reg) (rows : Fin 16) : Core × Option Failure :=
  match core.memory.readSprite core.registers.i rows.val with
  | .error failure => (core, some failure)
  | .ok sprite =>
      let (screen, struck) :=
        core.screen.draw (core.v x).toNat (core.v y).toNat (sprite.map fun row => row.toNat)
      (({ core with screen := screen }).setFlag struck, none)

def jumpFrom (core : Core) (dialect : Dialect) (base : Address) : Core × Option Failure :=
  let target : Int := (core.v 0).toNat + base.val
  if dialect.checkedJump then
    if Memory.isProgram target && Memory.isProgram (target + 1) then (core.setPc target, none)
    else (core, some (.ofFault (.outOfBounds target .notTarget)))
  else (core.setPc (target % 4096), none)

def call (core : Core) (target : Address) : Core × Option Failure :=
  match core.stack.call core.registers.pc with
  | .ok stack => (({ core with stack := stack }).setPc target.val, none)
  | .error fault => (core, some (.ofFault fault))

def ret (core : Core) : Core × Option Failure :=
  match core.stack.ret with
  | .ok (address, stack) => (({ core with stack := stack }).setPc address.toNat, none)
  | .error fault => (core, some (.ofFault fault))

/-- Takes the least key that is down. While there is none, the instruction is repeated. -/
def awaitKey (core : Core) (x : Reg) : Core :=
  match core.keypad.firstPressed with
  | none => core.setPc (core.registers.pc - 2)
  | some key => core.setV x (UInt8.ofNat key.val)

end Core

def Instruction.execute (dialect : Dialect) (core : Core) : Instruction → Core × Option Failure
  | .clear => ({ core with screen := .dark }, none)
  | .ret => core.ret
  | .jump target => (core.setPc target.val, none)
  | .call target => core.call target
  | .skip condition => (core.skipIf (condition.holds core), none)
  | .load x byte => (core.setV x byte, none)
  | .addByte x byte => (core.setV x (core.v x + byte), none)
  | .arith op x y => (core.compute op x y, none)
  | .setIndex target => (core.setI target.val, none)
  | .jumpFrom base => core.jumpFrom dialect base
  | .random x mask =>
      let (byte, source) := core.random.next
      (({ core with random := source }).setV x (byte &&& mask), none)
  | .draw x y rows => core.drawAtIndex x y rows
  | .readDelay x => (core.setV x core.timers.delay, none)
  | .awaitKey x => (core.awaitKey x, none)
  | .setDelay x => ({ core with timers := { core.timers with delay := core.v x } }, none)
  | .setSound x => ({ core with timers := { core.timers with sound := core.v x } }, none)
  | .addIndex x => (core.setI ((core.registers.i + (core.v x).toNat) % 65536), none)
  | .glyph x => (core.setI (Memory.fontAddress (core.keyOf x).val), none)
  | .decimal x => core.writeAtIndex (decimalDigits (core.v x))
  | .store x => core.writeAtIndex (core.registers.v.toList.take (dialect.span x))
  | .restore x => core.readAtIndex (dialect.span x)

end Chip8
