import Chip8.Numeral.Bits

/-! An `Opcode` is a sixteen-bit word, read as four hexadecimal digits. From the most significant one
on, the digits name the family, the register `x`, the register `y` and the nibble `n`; the last two
digits together are the immediate byte, the last three the address. Every word has these fields,
whether or not it is an instruction. -/

namespace Chip8

/-- There are sixteen digits, and so there is a digit zero. -/
instance digitNeZero : @NeZero Nat (@Zero.ofOfNat0 Nat (instOfNatNat 0)) 16 := ⟨by decide⟩

structure Opcode where
  word : Nat
  word_lt : word < 65536
  deriving DecidableEq, Repr

namespace Opcode

def ofInt (n : Int) : Opcode := ⟨(n % 65536).toNat, by omega⟩

/-- The word with these four digits, of each of which the low four bits count. -/
def ofNibbles (family x y n : Int) : Opcode :=
  ofInt ((((family % 16) * 16 + x % 16) * 16 + y % 16) * 16 + n % 16)

def ofBytes (high low : UInt8) : Opcode :=
  ⟨high.toNat * 256 + low.toNat, by have := high.toNat_lt; have := low.toNat_lt; omega⟩

theorem ofInt_word (op : Opcode) : ofInt op.word = op := by
  obtain ⟨word, word_lt⟩ := op
  simp only [ofInt, mk.injEq]
  omega

variable (op : Opcode)

def family : Fin 16 := ⟨op.word / 4096, by have := op.word_lt; omega⟩

def x : Fin 16 := ⟨op.word / 256 % 16, by omega⟩

def y : Fin 16 := ⟨op.word / 16 % 16, by omega⟩

def n : Fin 16 := ⟨op.word % 16, by omega⟩

def nibbles : List (Fin 16) := [op.family, op.x, op.y, op.n]

def address : Fin 4096 := ⟨op.word % 4096, by omega⟩

def immediate : UInt8 := UInt8.ofNat (op.word % 256)

def describe : String := "Opcode(" ++ Numeral.marked 4 op.word ++ ")"

end Opcode

end Chip8
