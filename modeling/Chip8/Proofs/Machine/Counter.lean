import Chip8.Proofs.Machine.Subroutine

namespace Chip8

namespace Condition

variable {core other : Core} {condition : Condition}

/-- What a condition asks of the registers and of the keys. -/
def Met (core : Core) : Condition → Prop
  | .byteEq x byte => core.v x = byte
  | .byteNe x byte => core.v x ≠ byte
  | .regEq x y => core.v x = core.v y
  | .regNe x y => core.v x ≠ core.v y
  | .keyDown x => core.keypad.isPressed (core.keyOf x) = true
  | .keyUp x => core.keypad.isPressed (core.keyOf x) = false

/-- The condition of the same operands that asks for the contrary. -/
def opposite : Condition → Condition
  | .byteEq x byte => .byteNe x byte
  | .byteNe x byte => .byteEq x byte
  | .regEq x y => .regNe x y
  | .regNe x y => .regEq x y
  | .keyDown x => .keyUp x
  | .keyUp x => .keyDown x

theorem holds_iff : condition.holds core = true ↔ condition.Met core := by
  cases condition <;> simp [holds, Met]

theorem met_opposite : condition.opposite.Met core ↔ ¬condition.Met core := by
  cases condition <;> simp [opposite, Met]

theorem met_congr (values : other.registers.v = core.registers.v)
    (keypad : other.keypad = core.keypad) : condition.Met other ↔ condition.Met core := by
  have value (x : Reg) : other.v x = core.v x := congrArg (·[x]) values
  have key (x : Reg) : other.keyOf x = core.keyOf x := by simp only [Core.keyOf, value]
  cases condition <;> simp only [Met, value, key, keypad]

end Condition

namespace Keypad

theorem firstPressed_eq_none_iff {keypad : Keypad} :
    keypad.firstPressed = none ↔ ∀ key, keypad.isPressed key = false := by
  simp [firstPressed]

end Keypad

namespace Core

variable {core after : Core} {dialect : Dialect}

theorem ret_done (executed : core.ret = (after, none)) :
    ∃ address : UInt16, after.registers.pc = address.toNat ∧
      core.stack.toList = after.stack.toList ++ [address] := by
  unfold ret at executed
  split at executed
  · rename_i returned
    cases executed
    exact ⟨_, rfl, CallStack.toList_ret returned⟩
  · cases executed

theorem call_done {target : Address} (executed : core.call target = (after, none)) :
    after.registers.pc = target.val := by
  unfold call at executed
  split at executed <;> cases executed
  rfl

theorem jumpFrom_done {base : Address} (executed : core.jumpFrom dialect base = (after, none)) :
    after.registers.pc =
      if dialect.checkedJump then core.target base else core.target base % 4096 := by
  rw [jumpFrom_apply] at executed
  split at executed
  · rename_i checked
    rw [if_pos checked]
    split at executed <;> cases executed
    rfl
  · rename_i unchecked
    rw [if_neg unchecked]
    cases executed
    rfl

end Core

namespace Instruction

/-- The place to which an instruction takes the program if it does not fail, where the program counter
of the core is the place of the instruction. -/
def GoesTo (dialect : Dialect) (core : Core) (next : Int) : Instruction → Prop
  | .ret => ∃ below top, core.stack.toList = below ++ [top] ∧ next = top.toNat
  | .jump target | .call target => next = target.val
  | .skip condition =>
      condition.Met core ∧ next = core.registers.pc + 4 ∨
        ¬condition.Met core ∧ next = core.registers.pc + 2
  | .jumpFrom base =>
      next = if dialect.checkedJump then core.target base else core.target base % 4096
  | .awaitKey _ =>
      (∀ key, core.keypad.isPressed key = false) ∧ next = core.registers.pc ∨
        (∃ key, core.keypad.isPressed key = true) ∧ next = core.registers.pc + 2
  | _ => next = core.registers.pc + 2

/-- The instructions that may take the program to any place. -/
def Leaps : Instruction → Prop
  | .jump _ | .call _ | .ret | .jumpFrom _ => True
  | _ => False

variable {dialect : Dialect} {core : Core} {instruction : Instruction} {next : Int}

theorem GoesTo.near (goes : instruction.GoesTo dialect core next) (steady : ¬instruction.Leaps) :
    next = core.registers.pc ∨ next = core.registers.pc + 2 ∨ next = core.registers.pc + 4 := by
  cases instruction with
  | jump | call | ret | jumpFrom => exact absurd trivial steady
  | awaitKey x =>
      rcases goes with ⟨_, stays⟩ | ⟨_, moves⟩
      · exact .inl stays
      · exact .inr (.inl moves)
  | skip condition =>
      rcases goes with ⟨_, skips⟩ | ⟨_, moves⟩
      · exact .inr (.inr skips)
      · exact .inr (.inl moves)
  | _ => exact .inr (.inl goes)

theorem execute_goesTo {op : Opcode} {after : Core}
    (executed : instruction.execute dialect (core.fetched op) = (after, none)) :
    instruction.GoesTo dialect core after.registers.pc := by
  have counter := instruction.execute_counter dialect (core.fetched op)
  -- The counter of the core that executes is already past the word.
  have past : (core.fetched op).registers.pc = core.registers.pc + 2 := rfl
  rw [executed] at counter
  cases instruction with
  | ret =>
      obtain ⟨top, returns, stack⟩ := Core.ret_done executed
      exact ⟨_, top, stack, returns⟩
  | call target => exact Core.call_done executed
  | jumpFrom base => exact (Core.jumpFrom_done executed :)
  | awaitKey x =>
      have keypad : (core.fetched op).keypad = core.keypad := rfl
      simp only [counterAfter, keypad, past] at counter
      by_cases idle : core.keypad.firstPressed = none
      · rw [if_pos idle] at counter
        exact .inl ⟨Keypad.firstPressed_eq_none_iff.mp idle, by omega⟩
      · rw [if_neg idle] at counter
        exact .inr ⟨by simpa [Keypad.firstPressed_eq_none_iff] using idle, counter⟩
  | skip condition =>
      have same : condition.holds (core.fetched op) = true ↔ condition.Met core :=
        Condition.holds_iff.trans (Condition.met_congr rfl rfl)
      simp only [counterAfter, past] at counter
      by_cases met : condition.Met core
      · rw [if_pos (same.mpr met)] at counter
        exact .inl ⟨met, by omega⟩
      · rw [if_neg (mt same.mp met)] at counter
        exact .inr ⟨met, counter⟩
  | _ => exact counter

end Instruction

namespace Machine

variable {machine other : Machine} {instruction : Instruction}

theorem step_goesTo (passive : machine.Passive) (running : machine.core.registers.halted = false)
    (fetched : machine.core.Fetches instruction.word) (completed : machine.step.result = .ok ()) :
    instruction.GoesTo machine.dialect machine.core machine.step.state.core.registers.pc := by
  obtain ⟨op, core, executed, after⟩ := step_of_fetches passive running fetched completed
  rw [after]
  exact (Instruction.execute_goesTo executed :)

theorem step_returned (passive : machine.Passive) (running : machine.core.registers.halted = false)
    (fetched : machine.core.Fetches Instruction.ret.word)
    (completed : machine.step.result = .ok ()) :
    ∃ address : UInt16, machine.step.state.core.registers.pc = address.toNat ∧
      machine.core.stack.toList = machine.step.state.core.stack.toList ++ [address] := by
  obtain ⟨op, core, executed, after⟩ := step_of_fetches passive running fetched completed
  rw [after]
  exact (Core.ret_done executed :)

/-- Another machine with the same registers, keys and subscribers. Its memory may hold another
program. -/
structure SamePlace (machine other : Machine) : Prop where
  registers : other.core.registers = machine.core.registers
  keypad : other.core.keypad = machine.core.keypad
  subscribers : other.subscribers = machine.subscribers

theorem step_opposed (passive : machine.Passive) (indexed : 0 ≤ machine.core.registers.i)
    (running : machine.core.registers.halted = false) {condition : Condition}
    (fetched : machine.core.Fetches (Instruction.skip condition).word)
    (completed : machine.step.result = .ok ()) (same : machine.SamePlace other)
    (contrary : other.core.Fetches (Instruction.skip condition.opposite).word) :
    other.step.result = .ok () ∧
      (machine.step.state.core.registers.pc = machine.core.registers.pc + 4 ∧
          other.step.state.core.registers.pc = machine.core.registers.pc + 2 ∨
        machine.step.state.core.registers.pc = machine.core.registers.pc + 2 ∧
          other.step.state.core.registers.pc = machine.core.registers.pc + 4) := by
  have goes := step_goesTo passive running fetched completed
  have otherPassive := passive.of_subscribers same.subscribers
  rw [← same.registers] at running indexed
  have otherCompleted := (step_executes otherPassive indexed running contrary fun _ => id).1
  have otherGoes := step_goesTo otherPassive running contrary otherCompleted
  have met : condition.opposite.Met other.core ↔ ¬condition.Met machine.core :=
    (Condition.met_congr (congrArg Registers.v same.registers) same.keypad).trans
      Condition.met_opposite
  simp only [Instruction.GoesTo, met, same.registers] at goes otherGoes
  refine ⟨otherCompleted, ?_⟩
  rcases goes with ⟨skips, here⟩ | ⟨moves, here⟩
  · exact .inl ⟨here, by simpa [skips] using otherGoes⟩
  · exact .inr ⟨here, by simpa [moves] using otherGoes⟩

/-- How the program goes on after a completed cycle, by the instruction that was executed. -/
structure ContinuedBy (instruction : Instruction) (machine after : Machine) : Prop where
  counter : instruction.GoesTo machine.dialect machine.core after.core.registers.pc
  pushed : ∀ target, instruction = .call target →
    ∃ address : UInt16, (address.toNat : Int) = machine.core.registers.pc + 2 ∧
      after.core.stack.toList = machine.core.stack.toList ++ [address]
  popped : instruction = .ret →
    ∃ address : UInt16, after.core.registers.pc = address.toNat ∧
      machine.core.stack.toList = after.core.stack.toList ++ [address]
  near : ¬instruction.Leaps →
    after.core.registers.pc = machine.core.registers.pc ∨
      after.core.registers.pc = machine.core.registers.pc + 2 ∨
      after.core.registers.pc = machine.core.registers.pc + 4
  opposed : ∀ condition, instruction = .skip condition → ∀ other, machine.SamePlace other →
    other.core.Fetches (Instruction.skip condition.opposite).word →
    other.step.result = .ok () ∧
      (after.core.registers.pc = machine.core.registers.pc + 4 ∧
          other.step.state.core.registers.pc = machine.core.registers.pc + 2 ∨
        after.core.registers.pc = machine.core.registers.pc + 2 ∧
          other.step.state.core.registers.pc = machine.core.registers.pc + 4)

/-- After a completed cycle of a reachable machine the program goes on where the instruction says
whose word stands at the program counter. -/
theorem Reached.step_continues (reached : machine.Reached)
    (running : machine.core.registers.halted = false) (completed : machine.step.result = .ok ()) :
    ∃ instruction : Instruction, machine.core.Fetches instruction.word ∧
      ContinuedBy instruction machine machine.step.state := by
  have passive := reached.regular.passive
  obtain ⟨op, instruction, _, read, known, _, _⟩ := step_of_ok passive running completed
  have fetched : machine.core.Fetches instruction.word :=
    Core.fetches_iff.mpr ⟨op, read, Instruction.decode?_eq_some_iff.mp known⟩
  have goes := step_goesTo passive running fetched completed
  refine ⟨instruction, fetched, ?_⟩
  exact {
    counter := goes
    pushed := by
      rintro target rfl
      exact step_called passive running fetched completed
    popped := by
      rintro rfl
      exact step_returned passive running fetched completed
    near := goes.near
    opposed := by
      rintro condition rfl other same contrary
      exact step_opposed passive reached.bounded.core.index.1 running fetched completed same
        contrary }

/-- A program that skips its second word, since `V0` is zero at first. -/
def stepOver : { rom : Rom // rom.Accepted } :=
  ⟨⟨"", #[0x30, 0x00, 0x00, 0x00, 0x00, 0xE0]⟩, Rom.accepted_of_size (by decide) (by decide)⟩

theorem stepOver_continues :
    (holding stepOver).core.registers.halted = false ∧ (holding stepOver).step.result = .ok () ∧
      (holding stepOver).step.state.core.registers.pc = 0x204 ∧
      ∃ instruction : Instruction, (holding stepOver).core.Fetches instruction.word ∧
        ContinuedBy instruction (holding stepOver) (holding stepOver).step.state := by
  have start := holding_standing stepOver
  have fetched : (holding stepOver).core.Fetches (Instruction.skip (.byteEq 0 0)).word :=
    Core.fetches_holding start.memory (by decide) start.counter
  obtain ⟨completed, _⟩ :=
    start.executes (.skip (.byteEq 0 0)) (by decide) (by decide) fun _ => id
  have met : (Condition.byteEq 0 0).Met (holding stepOver).core := by
    simp only [Condition.Met, Core.v, holding_registers]
    rfl
  have goes := step_goesTo start.reached.regular.passive start.running fetched completed
  have skips : (holding stepOver).step.state.core.registers.pc =
      (holding stepOver).core.registers.pc + 4 := by simpa [Instruction.GoesTo, met] using goes
  refine ⟨start.running, completed, ?_, start.reached.step_continues start.running completed⟩
  rw [skips, start.counter]
  rfl

end Machine

end Chip8
