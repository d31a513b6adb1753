import Chip8.Opcode

namespace Chip8

abbrev Reg := Fin 16

abbrev Address := Fin 4096

inductive Arith where
  | copy
  | or
  | and
  | xor
  | add
  | sub
  | shiftRight
  | subFrom
  | shiftLeft
  deriving DecidableEq, Repr

def Arith.ofDigit? : Fin 16 → Option Arith
  | 0x0 => some .copy
  | 0x1 => some .or
  | 0x2 => some .and
  | 0x3 => some .xor
  | 0x4 => some .add
  | 0x5 => some .sub
  | 0x6 => some .shiftRight
  | 0x7 => some .subFrom
  | 0xE => some .shiftLeft
  | _ => none

inductive Condition where
  | byteEq (x : Reg) (byte : UInt8)
  | byteNe (x : Reg) (byte : UInt8)
  | regEq (x y : Reg)
  | regNe (x y : Reg)
  | keyDown (x : Reg)
  | keyUp (x : Reg)
  deriving DecidableEq, Repr

inductive Instruction where
  | clear
  | ret
  | jump (target : Address)
  | call (target : Address)
  | skip (condition : Condition)
  | load (x : Reg) (byte : UInt8)
  /-- Adds a byte to a register, without a flag. -/
  | addByte (x : Reg) (byte : UInt8)
  | arith (op : Arith) (x y : Reg)
  | setIndex (target : Address)
  /-- Goes on at an address plus the register `V0`. -/
  | jumpFrom (base : Address)
  /-- Puts a random byte, masked, into a register. -/
  | random (x : Reg) (mask : UInt8)
  | draw (x y : Reg) (rows : Fin 16)
  | readDelay (x : Reg)
  | awaitKey (x : Reg)
  | setDelay (x : Reg)
  | setSound (x : Reg)
  | addIndex (x : Reg)
  | glyph (x : Reg)
  | decimal (x : Reg)
  | store (x : Reg)
  | restore (x : Reg)
  deriving DecidableEq, Repr

namespace Instruction

/-- The instructions of family F, which the immediate byte tells apart. -/
def decodeTransfer? (x : Reg) : UInt8 → Option Instruction
  | 0x07 => some (.readDelay x)
  | 0x0A => some (.awaitKey x)
  | 0x15 => some (.setDelay x)
  | 0x18 => some (.setSound x)
  | 0x1E => some (.addIndex x)
  | 0x29 => some (.glyph x)
  | 0x33 => some (.decimal x)
  | 0x55 => some (.store x)
  | 0x65 => some (.restore x)
  | _ => none

def decode? (op : Opcode) : Option Instruction :=
  match op.family.val with
  | 0x0 => if op.word = 0x00E0 then some .clear else if op.word = 0x00EE then some .ret else none
  | 0x1 => some (.jump op.address)
  | 0x2 => some (.call op.address)
  | 0x3 => some (.skip (.byteEq op.x op.immediate))
  | 0x4 => some (.skip (.byteNe op.x op.immediate))
  | 0x5 => if op.n = 0 then some (.skip (.regEq op.x op.y)) else none
  | 0x6 => some (.load op.x op.immediate)
  | 0x7 => some (.addByte op.x op.immediate)
  | 0x8 => (Arith.ofDigit? op.n).map (.arith · op.x op.y)
  | 0x9 => if op.n = 0 then some (.skip (.regNe op.x op.y)) else none
  | 0xA => some (.setIndex op.address)
  | 0xB => some (.jumpFrom op.address)
  | 0xC => some (.random op.x op.immediate)
  | 0xD => some (.draw op.x op.y op.n)
  | 0xE =>
      if op.immediate = 0x9E then some (.skip (.keyDown op.x))
      else if op.immediate = 0xA1 then some (.skip (.keyUp op.x))
      else none
  | _ => decodeTransfer? op.x op.immediate

end Instruction

end Chip8
