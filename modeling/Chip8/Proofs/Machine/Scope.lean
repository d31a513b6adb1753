import Chip8.Proofs.Instruction.Scope
import Chip8.Proofs.Machine.Failure

namespace Chip8.Machine

/-- What may differ after a completed cycle, by the instruction that was executed. -/
structure ChangedBy (instruction : Instruction) (machine after : Machine) : Prop where
  screen : after.core.screen ≠ machine.core.screen →
    instruction = .clear ∨ ∃ x y rows, instruction = .draw x y rows
  cells : ∀ a (bound : a < 4096), after.core.memory.cells[a] ≠ machine.core.memory.cells[a] →
    instruction.WritesCell machine.dialect machine.core.registers.i a
  stack : after.core.stack ≠ machine.core.stack →
    (∃ target, instruction = .call target) ∨ instruction = .ret
  delay : after.core.timers.delay ≠ machine.core.timers.delay → ∃ x, instruction = .setDelay x
  sound : after.core.timers.sound ≠ machine.core.timers.sound → ∃ x, instruction = .setSound x
  index : after.core.registers.i ≠ machine.core.registers.i →
    (∃ target, instruction = .setIndex target) ∨ (∃ x, instruction = .addIndex x) ∨
      ∃ x, instruction = .glyph x
  registers : ∀ k, after.core.v k ≠ machine.core.v k →
    instruction.WritesRegister machine.dialect machine.core.keypad k
  random : after.core.random =
    { machine.core.random with drawn := machine.core.random.drawn + instruction.draws }
  keypad : after.core.keypad = machine.core.keypad
  rom : after.rom = machine.rom
  programSize : after.core.memory.programSize = machine.core.memory.programSize
  dialect : after.dialect = machine.dialect
  frameCount : after.frameCount = machine.frameCount
  halted : after.core.registers.halted = machine.core.registers.halted
  cycles : after.core.registers.cycles = machine.core.registers.cycles + 1

variable {machine : Machine}

theorem completed_changedBy {op : Opcode} {instruction : Instruction} {core : Core}
    (executed : instruction.execute machine.dialect (machine.core.fetched op) = (core, none))
    (listing : Listing) : ChangedBy instruction machine (machine.completed core listing) := by
  have left : (instruction.execute machine.dialect (machine.core.fetched op)).1 = core := by
    rw [executed]
  have screen := instruction.execute_screen machine.dialect (machine.core.fetched op)
  have stack := instruction.execute_stack machine.dialect (machine.core.fetched op)
  have timers := instruction.execute_timers machine.dialect (machine.core.fetched op)
  have index := instruction.execute_index machine.dialect (machine.core.fetched op)
  have random := instruction.execute_random machine.dialect (machine.core.fetched op)
  have around := instruction.execute_surroundings machine.dialect (machine.core.fetched op)
  rw [left] at screen stack timers index random around
  have after := machine.completed_core core listing
  exact {
    screen := by
      rw [after]
      intro changed
      exact Instruction.screenAfter_ne (screen ▸ changed)
    cells := by
      rw [after]
      intro a bound changed
      refine Classical.byContradiction fun outside => changed ?_
      have kept : (instruction.execute machine.dialect (machine.core.fetched op)).1.memory.cells[a] =
          (machine.core.fetched op).memory.cells[a] :=
        Instruction.execute_cell_outside bound outside
      rw [left] at kept
      exact kept
    stack := by
      rw [after]
      intro changed
      exact Instruction.stackAfter_ne (stack ▸ changed)
    delay := by
      rw [after]
      intro changed
      exact Instruction.delayAfter_ne (timers ▸ changed)
    sound := by
      rw [after]
      intro changed
      exact Instruction.soundAfter_ne (timers ▸ changed)
    index := by
      rw [after]
      intro changed
      exact Instruction.indexAfter_ne (index ▸ changed)
    registers := by
      rw [after]
      intro k changed
      refine Classical.byContradiction fun outside => changed ?_
      have kept : (instruction.execute machine.dialect (machine.core.fetched op)).1.v k =
          (machine.core.fetched op).v k :=
        Instruction.execute_v_outside outside
      rw [left] at kept
      exact kept
    random := by
      rw [after]
      exact random.trans (instruction.randomAfter_eq (machine.core.fetched op))
    keypad := by
      rw [after]
      exact congrArg Surroundings.keypad around
    rom := machine.completed_rom core listing
    programSize := by
      rw [after]
      exact congrArg Surroundings.programSize around
    dialect := machine.completed_dialect core listing
    frameCount := machine.completed_frameCount core listing
    halted := by
      rw [after]
      exact congrArg Surroundings.halted around
    cycles := by
      rw [after]
      exact congrArg (·.cycles + 1) around }

/-- A completed cycle of a reachable machine executes the instruction whose word it finds at the
program counter, and changes no more than that instruction may. -/
theorem Reached.step_changes (reached : machine.Reached)
    (running : machine.core.registers.halted = false) (completed : machine.step.result = .ok ()) :
    ∃ instruction : Instruction, machine.core.Fetches instruction.word ∧
      ChangedBy instruction machine machine.step.state := by
  obtain ⟨op, instruction, core, read, known, executed, step⟩ :=
    step_of_ok reached.regular.passive running completed
  refine ⟨instruction, Core.fetches_iff.mpr ⟨op, read, ?_⟩, ?_⟩
  · exact Instruction.decode?_eq_some_iff.mp known
  · rw [step]
    exact completed_changedBy executed _

/-- A program that puts a random byte into `V3`. -/
def lottery : { rom : Rom // rom.Accepted } :=
  ⟨⟨"", #[0xC3, 0xFF]⟩, Rom.accepted_of_size (by decide) (by decide)⟩

theorem lottery_changes :
    (holding lottery).core.registers.halted = false ∧ (holding lottery).step.result = .ok () ∧
      ∃ instruction : Instruction, (holding lottery).core.Fetches instruction.word ∧
        ChangedBy instruction (holding lottery) (holding lottery).step.state := by
  have reached := holding_reached lottery
  have running := holding_running lottery
  have indexed : 0 ≤ (holding lottery).core.registers.i := by
    rw [holding_registers]
    decide
  have fetched : (holding lottery).core.Fetches (Instruction.random 3 0xFF).word :=
    Core.fetches_holding (holding_memory lottery) (by decide) (holding_counter lottery)
  have completed := (step_executes reached.regular.passive indexed running fetched fun _ => id).1
  exact ⟨running, completed, reached.step_changes running completed⟩

end Chip8.Machine
