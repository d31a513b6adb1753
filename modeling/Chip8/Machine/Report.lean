import Chip8.Machine.Basic

namespace Chip8

structure Table where
  title : String
  caption : Option String
  headers : List String
  rows : List (List String)
  deriving DecidableEq, Repr

def truthText (value : Bool) : String := if value then "True" else "False"

def Dialect.describe (dialect : Dialect) : String :=
  "Quirks(load_store_inclusive=" ++ truthText dialect.inclusiveTransfer ++
    ", jump_v0_checked=" ++ truthText dialect.checkedJump ++ ")"

namespace Machine

variable (machine : Machine)

/-- The line of the trace log for an instruction, with the index, the depth of the stack and the
timers as they are after it. -/
def traceLine (listing : Listing) : String :=
  Numeral.hex 4 listing.address ++ ": opcode: " ++ Numeral.hex 4 listing.opcode ++ " | " ++
    listing.text ++ " | I: " ++ Numeral.hex 4 machine.core.registers.i ++ " | SP: " ++
    Numeral.hex 0 machine.core.stack.depth ++ " | DT: " ++
    Numeral.hex 2 machine.core.timers.delay.toNat ++ " | ST: " ++
    Numeral.hex 2 machine.core.timers.sound.toNat

def stateCells : List (String × String) :=
  let core := machine.core
  (List.finRange 16).map (fun x =>
      ("V" ++ Numeral.hex 0 x.val, Numeral.marked 2 (core.v x).toNat)) ++
    [("PC", Numeral.marked 4 core.registers.pc),
      ("I", Numeral.marked 4 core.registers.i),
      ("DT", Numeral.marked 2 core.timers.delay.toNat),
      ("ST", Numeral.marked 2 core.timers.sound.toNat)]

/-- Puts the levels of the stack beside the first rows, as many as there are. -/
def besideStack (level : Nat) : List (String × String) → List UInt16 → List (List String)
  | [], _ => []
  | (name, value) :: rest, [] => [name, value, "", ""] :: besideStack (level + 1) rest []
  | (name, value) :: rest, address :: more =>
      [name, value, Numeral.marked 0 level, Numeral.marked 4 address.toNat] ::
        besideStack (level + 1) rest more

/-- The state of the machine as a table. The caption tells where a return would go. -/
def stateTable : Table where
  title := "CHIP-8 State"
  caption := machine.core.stack.toList.getLast?.map fun address =>
    "RET -> " ++ Numeral.marked 4 address.toNat
  headers := ["Register", "Value", "Stack", "Return"]
  rows := besideStack 0 machine.stateCells machine.core.stack.toList

def describe : String :=
  let registers := machine.core.registers
  "<Emulator rom=" ++ (machine.rom.map Rom.describe).getD "None" ++
    " PC=" ++ Numeral.marked 4 registers.pc ++ " I=" ++ Numeral.marked 4 registers.i ++
    " cycles=" ++ toString registers.cycles ++ " halted=" ++ truthText registers.halted ++ ">"

end Machine

end Chip8
