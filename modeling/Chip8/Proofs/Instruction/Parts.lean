import Chip8.Proofs.Instruction.Failure

/-! For each part of the core there is a table of the instructions that concern it; on all others the
part is as before. `execute` keeps to the tables whether the instruction fails or not. -/

namespace Chip8

namespace Core

variable (core : Core) (dialect : Dialect)

theorem ret_eq :
    core.ret.1 = { core with
      stack := core.ret.1.stack
      registers := { core.registers with pc := core.ret.1.registers.pc } } := by
  unfold ret
  split <;> rfl

theorem call_eq (target : Address) :
    (core.call target).1 = { core with
      stack := (core.call target).1.stack
      registers := { core.registers with pc := (core.call target).1.registers.pc } } := by
  unfold call
  split <;> rfl

theorem skipIf_eq (condition : Bool) :
    core.skipIf condition = core.setPc (core.skipIf condition).registers.pc := by
  unfold skipIf
  split <;> rfl

theorem awaitKey_eq (x : Reg) :
    core.awaitKey x = { core with
      registers := { core.registers with
        v := (core.awaitKey x).registers.v
        pc := (core.awaitKey x).registers.pc } } := by
  unfold awaitKey
  split <;> rfl

theorem compute_eq (op : Arith) (x y : Reg) :
    core.compute op x y = { core with
      registers := { core.registers with v := (core.compute op x y).registers.v } } := by
  unfold compute
  dsimp only
  split <;> rfl

theorem readAtIndex_eq (count : Nat) :
    (core.readAtIndex count).1 = { core with
      registers := { core.registers with v := (core.readAtIndex count).1.registers.v } } := by
  have registers := core.registers.setAll_eq 0 (core.memory.readAll core.registers.i count).1
  change { core with registers := core.registers.setAll 0 _ } = _
  rw [registers]
  rfl

theorem drawAtIndex_eq (x y : Reg) (rows : Fin 16) :
    (core.drawAtIndex x y rows).1 = { core with
      screen := (core.drawAtIndex x y rows).1.screen
      registers := { core.registers with v := (core.drawAtIndex x y rows).1.registers.v } } := by
  unfold drawAtIndex
  split <;> rfl

theorem jumpFrom_eq (base : Address) :
    (core.jumpFrom dialect base).1 =
      core.setPc (core.jumpFrom dialect base).1.registers.pc := by
  rw [jumpFrom_apply]
  split
  · split <;> rfl
  · rfl

theorem ret_counter :
    core.ret.1.registers.pc =
      match core.stack.ret with
      | .ok (address, _) => (address.toNat : Int)
      | .error _ => core.registers.pc := by
  unfold ret
  cases core.stack.ret <;> rfl

theorem ret_stack :
    core.ret.1.stack =
      match core.stack.ret with
      | .ok (_, stack) => stack
      | .error _ => core.stack := by
  unfold ret
  cases core.stack.ret <;> rfl

theorem call_counter (target : Address) :
    (core.call target).1.registers.pc =
      if core.stack.depth = 16 then core.registers.pc else target.val := by
  have depth_le := core.stack.depth_le
  unfold call CallStack.call
  by_cases full : core.stack.depth = 16
  · have noRoom : ¬core.stack.depth < 16 := by omega
    rw [dif_neg noRoom, if_pos full]
  · have room : core.stack.depth < 16 := by omega
    rw [dif_pos room, if_neg full]
    rfl

theorem call_stack (target : Address) :
    (core.call target).1.stack =
      match core.stack.call core.registers.pc with
      | .ok stack => stack
      | .error _ => core.stack := by
  unfold call
  cases core.stack.call core.registers.pc <;> rfl

theorem skipIf_counter (condition : Bool) :
    (core.skipIf condition).registers.pc =
      if condition then core.registers.pc + 2 else core.registers.pc := by
  unfold skipIf
  split <;> rfl

theorem awaitKey_counter (x : Reg) :
    (core.awaitKey x).registers.pc =
      if core.keypad.firstPressed = none then core.registers.pc - 2 else core.registers.pc := by
  unfold awaitKey
  cases core.keypad.firstPressed <;> rfl

theorem jumpFrom_counter (base : Address) :
    (core.jumpFrom dialect base).1.registers.pc =
      if dialect.checkedJump then
        if 0x200 ≤ core.target base ∧ core.target base ≤ 0xFFE then core.target base
        else core.registers.pc
      else core.target base % 4096 := by
  rw [jumpFrom_apply]
  split
  · split <;> rfl
  · rfl

end Core

/-- What no instruction touches. -/
structure Surroundings where
  opcode : Opcode
  cycles : Nat
  halted : Bool
  keypad : Keypad
  programSize : Nat

def Core.surroundings (core : Core) : Surroundings where
  opcode := core.registers.opcode
  cycles := core.registers.cycles
  halted := core.registers.halted
  keypad := core.keypad
  programSize := core.memory.programSize

namespace Instruction

def indexAfter (core : Core) : Instruction → Int
  | .setIndex target => target.val
  | .addIndex x => (core.registers.i + (core.v x).toNat) % 65536
  | .glyph x => Memory.fontAddress (core.keyOf x).val
  | _ => core.registers.i

/-- The program counter after an instruction. Before it, it is already past the word. -/
def counterAfter (dialect : Dialect) (core : Core) : Instruction → Int
  | .ret => match core.stack.ret with
    | .ok (address, _) => address.toNat
    | .error _ => core.registers.pc
  | .jump target => target.val
  | .call target => if core.stack.depth = 16 then core.registers.pc else target.val
  | .skip condition =>
      if condition.holds core then core.registers.pc + 2 else core.registers.pc
  | .jumpFrom base =>
      if dialect.checkedJump then
        if 0x200 ≤ core.target base ∧ core.target base ≤ 0xFFE then core.target base
        else core.registers.pc
      else core.target base % 4096
  | .awaitKey _ =>
      if core.keypad.firstPressed = none then core.registers.pc - 2 else core.registers.pc
  | _ => core.registers.pc

def stackAfter (core : Core) : Instruction → CallStack
  | .ret => match core.stack.ret with
    | .ok (_, stack) => stack
    | .error _ => core.stack
  | .call _ => match core.stack.call core.registers.pc with
    | .ok stack => stack
    | .error _ => core.stack
  | _ => core.stack

def memoryAfter (dialect : Dialect) (core : Core) : Instruction → Memory
  | .decimal x => (core.memory.writeAll core.registers.i (decimalDigits (core.v x))).1
  | .store x =>
      (core.memory.writeAll core.registers.i (core.registers.v.toList.take (dialect.span x))).1
  | _ => core.memory

def screenAfter (core : Core) : Instruction → Screen
  | .clear => .dark
  | .draw x y rows => (core.drawAtIndex x y rows).1.screen
  | _ => core.screen

def timersAfter (core : Core) : Instruction → Timers
  | .setDelay x => { core.timers with delay := core.v x }
  | .setSound x => { core.timers with sound := core.v x }
  | _ => core.timers

def randomAfter (core : Core) : Instruction → RandomSource
  | .random .. => core.random.next.2
  | _ => core.random

/-- The registers `V0` to `VF` after an instruction. -/
def valuesAfter (dialect : Dialect) (core : Core) : Instruction → Vector UInt8 16
  | .load x byte => core.registers.v.set x byte
  | .addByte x byte => core.registers.v.set x (core.v x + byte)
  | .arith op x y => (core.compute op x y).registers.v
  | .random x mask => core.registers.v.set x (core.random.next.1 &&& mask)
  | .draw x y rows => (core.drawAtIndex x y rows).1.registers.v
  | .readDelay x => core.registers.v.set x core.timers.delay
  | .awaitKey x => (core.awaitKey x).registers.v
  | .restore x => (core.readAtIndex (dialect.span x)).1.registers.v
  | _ => core.registers.v

variable (dialect : Dialect) (core : Core) (instruction : Instruction)

/-- Whether an instruction fails or not, it leaves of each part what the tables say, and of all else
what there was. -/
theorem execute_eq :
    (instruction.execute dialect core).1 = { core with
      registers := { core.registers with
        v := instruction.valuesAfter dialect core
        i := instruction.indexAfter core
        pc := instruction.counterAfter dialect core }
      memory := instruction.memoryAfter dialect core
      stack := instruction.stackAfter core
      screen := instruction.screenAfter core
      timers := instruction.timersAfter core
      random := instruction.randomAfter core } := by
  cases instruction with
  | ret =>
      have parts := core.ret_eq
      rw [core.ret_stack, core.ret_counter] at parts
      exact parts
  | call target =>
      have parts := core.call_eq target
      rw [core.call_stack, core.call_counter] at parts
      exact parts
  | skip condition =>
      have parts := core.skipIf_eq (condition.holds core)
      rw [core.skipIf_counter] at parts
      exact parts
  | arith op x y => exact core.compute_eq op x y
  | jumpFrom base =>
      have parts := core.jumpFrom_eq dialect base
      rw [core.jumpFrom_counter] at parts
      exact parts
  | draw x y rows => exact core.drawAtIndex_eq x y rows
  | awaitKey x =>
      have parts := core.awaitKey_eq x
      rw [core.awaitKey_counter] at parts
      exact parts
  | restore x => exact core.readAtIndex_eq _
  | _ => rfl

theorem memoryAfter_programSize :
    (instruction.memoryAfter dialect core).programSize = core.memory.programSize := by
  cases instruction with
  | decimal x => exact (congrArg Memory.programSize (core.memory.writeAll_eq _ _) :)
  | store x => exact (congrArg Memory.programSize (core.memory.writeAll_eq _ _) :)
  | _ => rfl

theorem execute_surroundings :
    (instruction.execute dialect core).1.surroundings = core.surroundings := by
  rw [execute_eq]
  simp only [Core.surroundings, memoryAfter_programSize]

theorem execute_values :
    (instruction.execute dialect core).1.registers.v = instruction.valuesAfter dialect core :=
  congrArg (·.registers.v) (execute_eq dialect core instruction)

theorem execute_index :
    (instruction.execute dialect core).1.registers.i = instruction.indexAfter core :=
  congrArg (·.registers.i) (execute_eq dialect core instruction)

theorem execute_counter :
    (instruction.execute dialect core).1.registers.pc = instruction.counterAfter dialect core :=
  congrArg (·.registers.pc) (execute_eq dialect core instruction)

theorem execute_stack :
    (instruction.execute dialect core).1.stack = instruction.stackAfter core :=
  congrArg (·.stack) (execute_eq dialect core instruction)

theorem execute_memory :
    (instruction.execute dialect core).1.memory = instruction.memoryAfter dialect core :=
  congrArg (·.memory) (execute_eq dialect core instruction)

theorem execute_screen :
    (instruction.execute dialect core).1.screen = instruction.screenAfter core :=
  congrArg (·.screen) (execute_eq dialect core instruction)

theorem execute_timers :
    (instruction.execute dialect core).1.timers = instruction.timersAfter core :=
  congrArg (·.timers) (execute_eq dialect core instruction)

theorem timers_of_failed {dialect : Dialect} {core after : Core} {instruction : Instruction}
    {failure : Failure} (failed : instruction.execute dialect core = (after, some failure)) :
    after.timers = core.timers := by
  have timers := execute_timers dialect core instruction
  rw [failed] at timers
  cases instruction with
  | setDelay x => cases failed
  | setSound x => cases failed
  | _ => exact timers

theorem execute_random :
    (instruction.execute dialect core).1.random = instruction.randomAfter core :=
  congrArg (·.random) (execute_eq dialect core instruction)

end Instruction

end Chip8
