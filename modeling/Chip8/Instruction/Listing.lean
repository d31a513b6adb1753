import Chip8.Instruction.Basic

namespace Chip8

inductive Operand where
  | register (index : Int)
  | byte (value : Int)
  | address (value : Int)
  | nibble (value : Int)
  | symbol (name : String)
  deriving DecidableEq, Repr

namespace Operand

def kind : Operand → String
  | .register _ => "Register"
  | .byte _ => "Byte"
  | .address _ => "Address"
  | .nibble _ => "Nibble"
  | .symbol _ => "Symbol"

/-- An operand in assembly notation: a register in braces, numbers with the places their kind
needs, names as they are. -/
def text : Operand → String
  | .register index => "V\x7b" ++ Numeral.marked 0 index ++ "\x7d"
  | .byte value => Numeral.marked 2 value
  | .address value => Numeral.marked 4 value
  | .nibble value => Numeral.marked 0 value
  | .symbol name => name

end Operand

structure Listing where
  address : Int
  opcode : Int
  mnemonic : String
  operands : List Operand
  deriving DecidableEq, Repr

def Listing.text (listing : Listing) : String :=
  if listing.operands = [] then listing.mnemonic
  else listing.mnemonic ++ " " ++ ", ".intercalate (listing.operands.map Operand.text)

def Arith.mnemonic : Arith → String
  | .copy => "LD"
  | .or => "OR"
  | .and => "AND"
  | .xor => "XOR"
  | .add => "ADD"
  | .sub => "SUB"
  | .shiftRight => "SHR"
  | .subFrom => "SUBN"
  | .shiftLeft => "SHL"

def Condition.mnemonic : Condition → String
  | .byteEq .. | .regEq .. => "SE"
  | .byteNe .. | .regNe .. => "SNE"
  | .keyDown _ => "SKP"
  | .keyUp _ => "SKNP"

def Condition.operands : Condition → List Operand
  | .byteEq x byte | .byteNe x byte => [.register x.val, .byte byte.toNat]
  | .regEq x y | .regNe x y => [.register x.val, .register y.val]
  | .keyDown x | .keyUp x => [.register x.val]

namespace Instruction

def mnemonic : Instruction → String
  | .clear => "CLS"
  | .ret => "RET"
  | .jump _ | .jumpFrom _ => "JP"
  | .call _ => "CALL"
  | .skip condition => condition.mnemonic
  | .arith op .. => op.mnemonic
  | .addByte .. | .addIndex _ => "ADD"
  | .random .. => "RND"
  | .draw .. => "DRW"
  | .load .. | .setIndex _ | .readDelay _ | .awaitKey _ | .setDelay _ | .setSound _ | .glyph _
  | .decimal _ | .store _ | .restore _ => "LD"

def operands : Instruction → List Operand
  | .clear | .ret => []
  | .jump target | .call target => [.address target.val]
  | .skip condition => condition.operands
  | .load x byte | .addByte x byte | .random x byte => [.register x.val, .byte byte.toNat]
  | .arith _ x y => [.register x.val, .register y.val]
  | .setIndex target => [.symbol "I", .address target.val]
  | .jumpFrom base => [.symbol "V0", .address base.val]
  | .draw x y rows => [.register x.val, .register y.val, .nibble rows.val]
  | .readDelay x => [.register x.val, .symbol "DT"]
  | .awaitKey x => [.register x.val, .symbol "KEY"]
  | .setDelay x => [.symbol "DT", .register x.val]
  | .setSound x => [.symbol "ST", .register x.val]
  | .addIndex x => [.symbol "I", .register x.val]
  | .glyph x => [.symbol "F", .register x.val]
  | .decimal x => [.symbol "B", .register x.val]
  | .store x => [.symbol "[I]", .register x.val]
  | .restore x => [.register x.val, .symbol "[I]"]

def listing (instruction : Instruction) (address : Int) (op : Opcode) : Listing :=
  ⟨address, op.word, instruction.mnemonic, instruction.operands⟩

end Instruction

end Chip8
