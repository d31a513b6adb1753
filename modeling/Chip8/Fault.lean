import Chip8.Numeral.Bits

namespace Chip8

inductive Refusal where
  /-- The address is not in memory at all. -/
  | unmapped
  | notProgram
  | notCounter
  | notTarget
  /-- A sprite of this many bytes does not fit there. -/
  | noSprite (length : Nat)
  /-- Any other reason, in words. -/
  | other (text : String)
  deriving DecidableEq, Repr

def Refusal.text : Refusal → String
  | .unmapped => "out of bounds"
  | .notProgram => "is outside program memory"
  | .notCounter => "is not a valid program counter"
  | .notTarget => "is not a valid jump target"
  | .noSprite length => "cannot hold a " ++ toString length ++ " byte sprite"
  | .other text => text

inductive Fault where
  /-- A fault of no particular kind. -/
  | general (text : String)
  | invalidOpcode (word : Int)
  /-- Some other misuse of the call stack. -/
  | stack (text : String)
  /-- A call with all stack slots in use. -/
  | stackOverflow (depth : Int)
  | emptyStack
  /-- Some other misuse of memory. -/
  | memory (text : String)
  | outOfBounds (address : Int) (reason : Refusal)
  | outOfMemory (requested available : Int)
  deriving DecidableEq, Repr

def Fault.message : Fault → String
  | .general text | .stack text | .memory text => text
  | .invalidOpcode word => "Invalid opcode " ++ Numeral.marked 4 word
  | .stackOverflow depth => "Call stack overflow (depth " ++ toString depth ++ ")"
  | .emptyStack => "Return with an empty call stack"
  | .outOfBounds address reason => "Address " ++ Numeral.marked 4 address ++ " " ++ reason.text
  | .outOfMemory requested available =>
      "Program of " ++ toString requested ++ " bytes exceeds " ++ toString available ++
        " bytes of program memory"

/-- A fault and the program counter of the instruction that it stopped. -/
structure Trap where
  fault : Fault
  pc : Option Int
  deriving DecidableEq, Repr

def Trap.message (trap : Trap) : String :=
  match trap.pc with
  | none => trap.fault.message
  | some pc => trap.fault.message ++ " (PC=" ++ Numeral.marked 4 pc ++ ")"

/-- A trap that does not know its program counter yet takes this one. -/
def Trap.at (trap : Trap) (pc : Int) : Trap :=
  match trap.pc with
  | none => ⟨trap.fault, some pc⟩
  | some _ => trap

/-- Whatever ends an operation of the machine early. -/
inductive Failure where
  | trap (stopped : Trap)
  /-- A sprite has from none to fifteen bytes. -/
  | spriteLength (length : Int)
  | noKey (index : Int)
  | noPixel (x y : Int)
  | noRegister (index : Int)
  /-- The number of a register fits into an unsigned word, but not into a signed one. -/
  | registerBeyondSigned
  | registerBeyondWord
  | noInstruction
  /-- A subscriber that cannot be called was asked to react. -/
  | notCallable
  /-- Subscribers caused one another without end. -/
  | nestedTooDeep
  deriving DecidableEq, Repr

def Failure.message : Failure → String
  | .trap stopped => stopped.message
  | .spriteLength length => "Sprite length must be 0-15, got " ++ toString length
  | .noKey index => "Keypad has no key " ++ Numeral.marked 0 index
  | .noPixel x y => "Pixel (" ++ toString x ++ ", " ++ toString y ++ ") outside 64x32 display"
  | .noRegister index =>
      "index " ++ toString index ++ " is out of bounds for axis 0 with size 16"
  | .registerBeyondSigned => "Python int too large to convert to C long"
  | .registerBeyondWord =>
      "only integers, slices (\x60:\x60), ellipsis (\x60...\x60), numpy.newaxis (\x60None\x60) and integer " ++
        "or boolean arrays are valid indices"
  | .noInstruction => "\x27NoneType\x27 object has no attribute \x27address\x27"
  | .notCallable => "Callback None is not Callable"
  | .nestedTooDeep => "maximum recursion depth exceeded"

def Failure.ofFault (fault : Fault) : Failure := .trap ⟨fault, none⟩

end Chip8
