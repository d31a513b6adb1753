import Chip8.Fault
import Chip8.Numeral.Bits
import Chip8.Opcode

/-! 4096 bytes. Those below 512 are reserved: zeros, and from 80 on the sprites of the sixteen
hexadecimal digits. From 512 on lies the program, which alone may be written. -/

namespace Chip8

namespace Memory

def size : Nat := 4096

def fontStart : Nat := 80

def glyphSize : Nat := 5

def programStart : Nat := 512

def programCapacity : Nat := size - programStart

def maxSpriteLength : Nat := 15

def font : Array UInt8 := #[
  0xF0, 0x90, 0x90, 0x90, 0xF0,
  0x20, 0x60, 0x20, 0x20, 0x70,
  0xF0, 0x10, 0xF0, 0x80, 0xF0,
  0xF0, 0x10, 0xF0, 0x10, 0xF0,
  0x90, 0x90, 0xF0, 0x10, 0x10,
  0xF0, 0x80, 0xF0, 0x10, 0xF0,
  0xF0, 0x80, 0xF0, 0x90, 0xF0,
  0xF0, 0x10, 0x20, 0x40, 0x40,
  0xF0, 0x90, 0xF0, 0x90, 0xF0,
  0xF0, 0x90, 0xF0, 0x10, 0xF0,
  0xF0, 0x90, 0xF0, 0x90, 0x90,
  0xE0, 0x90, 0xE0, 0x90, 0xE0,
  0xF0, 0x80, 0x80, 0x80, 0xF0,
  0xE0, 0x90, 0x90, 0x90, 0xE0,
  0xF0, 0x80, 0xF0, 0x80, 0xF0,
  0xF0, 0x80, 0xF0, 0x80, 0x80]

def fontEnd : Nat := fontStart + font.size

def fontAddress (digit : Int) : Int := fontStart + glyphSize * digit

def isProgram (address : Int) : Bool := programStart ≤ address ∧ address < size

/-- What a reserved cell holds at all times, and any cell at power-on. -/
def reserved (address : Nat) : UInt8 :=
  if fontStart ≤ address then font.getD (address - fontStart) 0 else 0

end Memory

/-- The cells and the size of the program that was loaded last. -/
structure Memory where
  cells : Vector UInt8 4096
  programSize : Nat
  deriving DecidableEq

namespace Memory

def powerOn : Memory := ⟨Vector.ofFn fun a => reserved a, 0⟩

def read (memory : Memory) (address : Int) : Except Fault UInt8 :=
  if inside : 0 ≤ address ∧ address < 4096 then
    have bound : address.toNat < 4096 := by omega
    .ok memory.cells[address.toNat]
  else .error (.outOfBounds address .unmapped)

/-- Puts the low eight bits of a value into a cell of the program. -/
def write (memory : Memory) (address value : Int) : Except Fault Memory :=
  if inside : 512 ≤ address ∧ address < 4096 then
    .ok { memory with cells := memory.cells.set address.toNat (Numeral.lowByte value) (by omega) }
  else .error (.outOfBounds address .notProgram)

/-- A written cell holds the low eight bits of the value, and every other cell what it held. -/
theorem read_write {memory after : Memory} {address value : Int}
    (written : memory.write address value = .ok after) (other : Int) :
    after.read other =
      if other = address then .ok (Numeral.lowByte value) else memory.read other := by
  unfold write at written
  split at written
  · rename_i inside
    cases written
    unfold read
    by_cases same : other = address
    · subst same
      have mapped : 0 ≤ other ∧ other < 4096 := by omega
      simp [mapped]
    · by_cases mapped : 0 ≤ other ∧ other < 4096
      · have apart : address.toNat ≠ other.toNat := by omega
        simp [same, mapped, apart]
      · simp [same, mapped]
  · cases written

/-- The word at a program counter, its more significant byte first. Both bytes lie in the program. -/
def readOpcode (memory : Memory) (pc : Int) : Except Fault Opcode :=
  if inside : 512 ≤ pc ∧ pc + 1 < 4096 then
    have bound : pc.toNat + 1 < 4096 := by omega
    .ok (.ofBytes memory.cells[pc.toNat] memory.cells[pc.toNat + 1])
  else .error (.outOfBounds pc .notCounter)

/-- The bytes of a sprite. A sprite may be empty, and may then stand at the very end. -/
def readSprite (memory : Memory) (address length : Int) : Except Failure (List UInt8) :=
  if 0 ≤ length ∧ length ≤ maxSpriteLength then
    if 0 ≤ address ∧ address + length ≤ size then
      .ok (memory.cells.extract address.toNat (address + length).toNat).toList
    else .error (.ofFault (.outOfBounds address (.noSprite length.toNat)))
  else .error (.spriteLength length)

/-- Puts a program at the start of its region and zeros behind it. -/
def loadProgram (memory : Memory) (program : Array UInt8) : Except Fault Memory :=
  if program.size ≤ programCapacity then
    .ok {
      cells := Vector.ofFn fun a =>
        if a < programStart then memory.cells[a] else program.getD (a - programStart) 0
      programSize := program.size }
  else .error (.outOfMemory program.size programCapacity)

/-- Writes bytes one after another. A fault leaves the bytes before it written. -/
def writeAll (memory : Memory) (address : Int) : List UInt8 → Memory × Option Fault
  | [] => (memory, none)
  | byte :: rest =>
      match memory.write address byte.toNat with
      | .ok next => next.writeAll (address + 1) rest
      | .error fault => (memory, some fault)

/-- Reads bytes one after another. A fault leaves the bytes before it read. -/
def readAll (memory : Memory) (address : Int) : Nat → List UInt8 × Option Fault
  | 0 => ([], none)
  | count + 1 =>
      match memory.read address with
      | .ok byte =>
          let (rest, fault) := memory.readAll (address + 1) count
          (byte :: rest, fault)
      | .error fault => ([], some fault)

/-- The cell that an end of a range names. A negative one is counted back from the end of memory. -/
def endOf (position : Int) : Nat := (if position < 0 then position + size else position).toNat

def range (memory : Memory) (start stop : Int) : List UInt8 :=
  (memory.cells.toList.take (endOf stop)).drop (endOf start)

def describe (memory : Memory) : String :=
  "<Memory size=" ++ toString size ++ " program=" ++ toString memory.programSize ++ " bytes>"

end Memory

end Chip8
