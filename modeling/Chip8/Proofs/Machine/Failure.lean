import Chip8.Proofs.Instruction.Words
import Chip8.Proofs.Machine.Bounds
import Chip8.Proofs.Machine.Program

namespace Chip8

/-- The faults in which a cycle can end: no word can be read, the word is no instruction, or the
instruction fails. -/
inductive Core.Stops (dialect : Dialect) (core : Core) : Fault → Prop where
  | unread (beyond : ¬(0x200 ≤ core.registers.pc ∧ core.registers.pc ≤ 0xFFE)) :
      Stops dialect core (.outOfBounds core.registers.pc .notCounter)
  | unknown {word : Nat} (fetched : core.Fetches word)
      (foreign : ∀ instruction : Instruction, word ≠ instruction.word) :
      Stops dialect core (.invalidOpcode word)
  | failed {instruction : Instruction} {fault : Fault} (fetched : core.Fetches instruction.word)
      (fails : instruction.Fails dialect core fault) : Stops dialect core fault

namespace Core

variable {core : Core} {dialect : Dialect} {op : Opcode} {fault other : Fault}

theorem not_fetches_of_error (refused : core.memory.readOpcode core.registers.pc = .error fault)
    {word : Nat} : ¬core.Fetches word := by
  intro fetched
  obtain ⟨op, read, _⟩ := fetches_iff.mp fetched
  rw [refused] at read
  cases read

theorem word_of_fetches (read : core.memory.readOpcode core.registers.pc = .ok op) {word : Nat}
    (fetched : core.Fetches word) : op.word = word := by
  obtain ⟨same, readSame, wordSame⟩ := fetches_iff.mp fetched
  rw [read] at readSame
  cases readSame
  exact wordSame

theorem stops_of_error (refused : core.memory.readOpcode core.registers.pc = .error fault) :
    Stops dialect core other ↔ other = fault := by
  obtain ⟨beyond, rfl⟩ := Memory.readOpcode_error_iff.mp refused
  constructor
  · intro stops
    cases stops with
    | unread => rfl
    | unknown fetched => exact absurd fetched (not_fetches_of_error refused)
    | failed fetched => exact absurd fetched (not_fetches_of_error refused)
  · rintro rfl
    exact .unread beyond

theorem stops_of_unknown (read : core.memory.readOpcode core.registers.pc = .ok op)
    (foreign : Instruction.decode? op = none) :
    Stops dialect core other ↔ other = .invalidOpcode op.word := by
  have noWord := Instruction.decode?_eq_none_iff.mp foreign
  constructor
  · intro stops
    cases stops with
    | unread beyond => exact absurd (Memory.readOpcode_inside read) beyond
    | unknown fetched => rw [word_of_fetches read fetched]
    | failed fetched => exact absurd (word_of_fetches read fetched) (noWord _)
  · rintro rfl
    exact .unknown (fetches_iff.mpr ⟨op, read, rfl⟩) noWord

theorem stops_of_known {instruction : Instruction}
    (read : core.memory.readOpcode core.registers.pc = .ok op)
    (known : Instruction.decode? op = some instruction) :
    Stops dialect core other ↔ instruction.Fails dialect core other := by
  have word := Instruction.decode?_eq_some_iff.mp known
  constructor
  · intro stops
    cases stops with
    | unread beyond => exact absurd (Memory.readOpcode_inside read) beyond
    | unknown fetched foreign =>
        rw [word_of_fetches read fetched] at word
        exact absurd word (foreign instruction)
    | failed fetched fails =>
        have same := Instruction.decode?_eq_some_iff.mpr (word_of_fetches read fetched)
        rw [known] at same
        cases same
        exact fails
  · intro fails
    exact .failed (fetches_iff.mpr ⟨op, read, word⟩) fails

theorem fails_fetched {instruction : Instruction} :
    instruction.Fails dialect (core.fetched op) fault ↔ instruction.Fails dialect core fault := by
  cases instruction <;> rfl

theorem cellsLeft_fetched (instruction : Instruction) :
    instruction.cellsLeft dialect (core.fetched op) = instruction.cellsLeft dialect core := by
  cases instruction <;> rfl

theorem registersLeft_fetched (instruction : Instruction) :
    instruction.registersLeft (core.fetched op) = instruction.registersLeft core := by
  cases instruction <;> rfl

end Core

namespace Machine

variable {machine : Machine} {failure : Failure}

theorem step_error_iff (passive : machine.Passive) (indexed : 0 ≤ machine.core.registers.i)
    (running : machine.core.registers.halted = false) :
    machine.step.result = .error failure ↔
      ∃ fault, machine.core.Stops machine.dialect fault ∧
        failure = .trap ⟨fault, some machine.core.registers.pc⟩ := by
  cases read : machine.core.memory.readOpcode machine.core.registers.pc with
  | error fault =>
      simp [step_eq passive (.unread running read), Core.stops_of_error read, eq_comm]
  | ok op =>
      cases known : Instruction.decode? op with
      | none =>
          simp [step_eq passive (.unknown running read known), Core.stops_of_unknown read known,
            eq_comm]
      | some instruction =>
          have fetchedIndex : 0 ≤ (machine.core.fetched op).registers.i := indexed
          have fails := instruction.execute_fails_iff machine.dialect fetchedIndex
          simp only [Core.stops_of_known read known]
          cases executed : instruction.execute machine.dialect (machine.core.fetched op) with
          | mk after outcome =>
              rw [executed] at fails
              cases outcome with
              | none =>
                  rw [step_eq passive (.done running read known executed)]
                  constructor
                  · intro failed
                    cases failed
                  · rintro ⟨fault, stops, rfl⟩
                    have stopped := (fails _).mpr ⟨fault, Core.fails_fetched.mpr stops, rfl⟩
                    cases stopped
              | some stopped =>
                  rw [step_eq passive (.failed running read known executed)]
                  obtain ⟨fault, stops, rfl⟩ := (fails _).mp rfl
                  constructor
                  · rintro ⟨⟩
                    exact ⟨fault, Core.fails_fetched.mp stops, rfl⟩
                  · rintro ⟨other, otherStops, rfl⟩
                    have same := (fails _).mpr ⟨other, Core.fails_fetched.mpr otherStops, rfl⟩
                    cases same
                    rfl

theorem step_executes (passive : machine.Passive) (indexed : 0 ≤ machine.core.registers.i)
    (running : machine.core.registers.halted = false) {instruction : Instruction}
    (fetched : machine.core.Fetches instruction.word)
    (able : ∀ fault, ¬instruction.Fails machine.dialect machine.core fault) :
    machine.step.result = .ok () ∧ ∃ op, machine.step.state.core =
      (instruction.execute machine.dialect (machine.core.fetched op)).1.counted := by
  obtain ⟨op, read, word⟩ := Core.fetches_iff.mp fetched
  have known := Instruction.decode?_of_word word
  have fetchedIndex : 0 ≤ (machine.core.fetched op).registers.i := indexed
  have fails := instruction.execute_fails_iff machine.dialect fetchedIndex
  cases executed : instruction.execute machine.dialect (machine.core.fetched op) with
  | mk core failure =>
      rw [executed] at fails
      cases failure with
      | some failure =>
          obtain ⟨fault, failed, _⟩ := (fails failure).mp rfl
          exact absurd (Core.fails_fetched.mp failed) (able fault)
      | none =>
          rw [step_eq passive (.done running read known executed)]
          refine ⟨rfl, op, ?_⟩
          rw [executed]
          exact machine.completed_core core _

theorem step_of_fetches (passive : machine.Passive)
    (running : machine.core.registers.halted = false) {instruction : Instruction}
    (fetched : machine.core.Fetches instruction.word) (completed : machine.step.result = .ok ()) :
    ∃ op core, instruction.execute machine.dialect (machine.core.fetched op) = (core, none) ∧
      machine.step.state.core = core.counted := by
  obtain ⟨op, found, core, read, known, executed, step⟩ := step_of_ok passive running completed
  rw [Instruction.decode?_of_word (Core.word_of_fetches read fetched)] at known
  cases known
  rw [step]
  exact ⟨op, core, executed, machine.completed_core core _⟩

theorem running_of_step_error (passive : machine.Passive)
    (failed : machine.step.result = .error failure) : machine.core.registers.halted = false := by
  cases halted : machine.core.registers.halted with
  | false => rfl
  | true =>
      rw [step_eq passive (.idle halted)] at failed
      cases failed

/-- The machine when a word was read, and nothing else has changed but these. -/
def leftWith (machine : Machine) (op : Opcode) (halted : Bool) (cells : Vector UInt8 4096)
    (v : Vector UInt8 16) : Machine :=
  { machine with core := { machine.core with
      registers := { machine.core.registers with
        pc := machine.core.registers.pc + 2, opcode := op, halted := halted, v := v }
      memory := { machine.core.memory with cells := cells } } }

/-- What a failing cycle leaves of a machine. -/
inductive LeftBehind (machine : Machine) (failure : Failure) : Machine → Prop where
  | unread {fault : Fault}
      (refused : machine.core.memory.readOpcode machine.core.registers.pc = .error fault) :
      LeftBehind machine failure machine
  | unknown {op : Opcode}
      (read : machine.core.memory.readOpcode machine.core.registers.pc = .ok op)
      (foreign : Instruction.decode? op = none)
      (invalid : ∃ word, failure = .trap ⟨.invalidOpcode word, some machine.core.registers.pc⟩) :
      LeftBehind machine failure (machine.leftWith op machine.haltOnInvalid machine.core.memory.cells
        machine.core.registers.v)
  | failed {op : Opcode} {instruction : Instruction} {cells : Vector UInt8 4096}
      {v : Vector UInt8 16}
      (read : machine.core.memory.readOpcode machine.core.registers.pc = .ok op)
      (known : Instruction.decode? op = some instruction)
      (valid : ∀ word, failure ≠ .trap ⟨.invalidOpcode word, some machine.core.registers.pc⟩)
      (cellsLeft : cells.toList = instruction.cellsLeft machine.dialect machine.core)
      (registersLeft : v.toList = instruction.registersLeft machine.core) :
      LeftBehind machine failure (machine.leftWith op false cells v)

theorem step_left_behind (passive : machine.Passive) (indexed : 0 ≤ machine.core.registers.i)
    (failed : machine.step.result = .error failure) :
    machine.step.effects = machine.notes (.beforeCycle machine.core.registers.cycles) ∧
      machine.LeftBehind failure machine.step.state := by
  have running := running_of_step_error passive failed
  obtain ⟨fault, stops, rfl⟩ := (step_error_iff passive indexed running).mp failed
  cases read : machine.core.memory.readOpcode machine.core.registers.pc with
  | error refusal =>
      rw [step_eq passive (.unread running read)]
      exact ⟨rfl, .unread read⟩
  | ok op =>
      cases known : Instruction.decode? op with
      | none =>
          have invalid := (Core.stops_of_unknown read known).mp stops
          rw [step_eq passive (.unknown running read known)]
          exact ⟨rfl, .unknown read known ⟨op.word, by rw [invalid]⟩⟩
      | some instruction =>
          have fails := (Core.stops_of_known read known).mp stops
          have valid (word : Int) : Failure.trap ⟨fault, some machine.core.registers.pc⟩ ≠
              .trap ⟨.invalidOpcode word, some machine.core.registers.pc⟩ := by
            rintro ⟨⟩
            exact Instruction.not_fails_invalid word fails
          cases executed : instruction.execute machine.dialect (machine.core.fetched op) with
          | mk after outcome =>
              cases outcome with
              | none =>
                  rw [step_eq passive (.done running read known executed)] at failed
                  cases failed
              | some stopped =>
                  have fetchedIndex : 0 ≤ (machine.core.fetched op).registers.i := indexed
                  obtain ⟨cells, v, rfl, written, loaded⟩ :=
                    Instruction.execute_failed fetchedIndex executed
                  rw [Core.cellsLeft_fetched] at written
                  rw [Core.registersLeft_fetched] at loaded
                  rw [step_eq passive (.failed running read known executed)]
                  refine ⟨rfl, ?_⟩
                  have left := LeftBehind.failed read known valid written loaded
                  have state : machine.withCore ((machine.core.fetched op).transferred cells v) =
                      machine.leftWith op false cells v := by
                    rw [← running]
                    rfl
                  rw [state]
                  exact left

/-- A cycle of a reachable machine that is not halted fails exactly as `Stops` says, and the trap
carries the place of the instruction. -/
theorem Reached.step_fails_iff (reached : machine.Reached)
    (running : machine.core.registers.halted = false) (failure : Failure) :
    machine.step.result = .error failure ↔
      ∃ fault, machine.core.Stops machine.dialect fault ∧
        failure = .trap ⟨fault, some machine.core.registers.pc⟩ :=
  step_error_iff reached.regular.passive reached.bounded.core.index.1 running

def bareReturn : { rom : Rom // rom.Accepted } :=
  ⟨⟨"", #[0x00, 0xEE]⟩, Rom.accepted_of_size (by decide) (by decide)⟩

theorem bareReturn_fails :
    (holding bareReturn).core.registers.halted = false ∧
      (holding bareReturn).step.result = .error (.trap ⟨.emptyStack, some 0x200⟩) := by
  have running := holding_running bareReturn
  have counter := holding_counter bareReturn
  have bare : (holding bareReturn).core.stack.depth = 0 := by
    rw [holding_stack]
    rfl
  have fetched : (holding bareReturn).core.Fetches Instruction.ret.word :=
    Core.fetches_holding (holding_memory bareReturn) (by decide) counter
  refine ⟨running, ((holding_reached bareReturn).step_fails_iff running _).mpr ?_⟩
  refine ⟨.emptyStack, .failed fetched ⟨bare, rfl⟩, ?_⟩
  rw [counter]
  rfl

/-- A failing cycle of a reachable machine has told no more than that it began, and has left no more
than `LeftBehind` says. -/
theorem Reached.step_leaves (reached : machine.Reached)
    (failed : machine.step.result = .error failure) :
    machine.step.effects = machine.notes (.beforeCycle machine.core.registers.cycles) ∧
      machine.LeftBehind failure machine.step.state :=
  step_left_behind reached.regular.passive reached.bounded.core.index.1 failed

/-- A program that points the index at the last but one byte of memory and writes three digits. -/
def digitsAtEnd : { rom : Rom // rom.Accepted } :=
  ⟨⟨"", #[0xAF, 0xFE, 0xF0, 0x33]⟩, Rom.accepted_of_size (by decide) (by decide)⟩

def beforeDigits : Machine := (holding digitsAtEnd).run [.step]

theorem beforeDigits_reached : beforeDigits.Reached := (holding_reached digitsAtEnd).run [.step]

theorem beforeDigits_core :
    ∃ op, beforeDigits.core = (((holding digitsAtEnd).core.fetched op).setI 0xFFE).counted := by
  have passive := (holding_reached digitsAtEnd).regular.passive
  have fetched : (holding digitsAtEnd).core.Fetches (Instruction.setIndex 0xFFE).word :=
    Core.fetches_holding (holding_memory digitsAtEnd) (by decide) (holding_counter digitsAtEnd)
  have indexed : 0 ≤ (holding digitsAtEnd).core.registers.i := by
    rw [holding_registers]
    decide
  rw [beforeDigits, run_step]
  exact (step_executes passive indexed (holding_running digitsAtEnd) fetched fun _ => id).2

theorem beforeDigits_leaves :
    beforeDigits.step.result = .error (.trap ⟨.outOfBounds 0x1000 .notProgram, some 0x202⟩) ∧
      beforeDigits.step.effects = beforeDigits.notes (.beforeCycle 1) ∧
      beforeDigits.LeftBehind (.trap ⟨.outOfBounds 0x1000 .notProgram, some 0x202⟩)
        beforeDigits.step.state := by
  obtain ⟨op, core⟩ := beforeDigits_core
  have registers := holding_registers digitsAtEnd
  have passive := beforeDigits_reached.regular.passive
  have memory : beforeDigits.core.memory = .holding #[0xAF, 0xFE, 0xF0, 0x33] := by
    rw [core]
    exact holding_memory digitsAtEnd
  have counter : beforeDigits.core.registers.pc = (512 + 2 : Nat) := by
    rw [core]
    change (holding digitsAtEnd).core.registers.pc + 2 = _
    rw [registers]
    rfl
  have cycles : beforeDigits.core.registers.cycles = 1 := by
    rw [core]
    change (holding digitsAtEnd).core.registers.cycles + 1 = _
    rw [registers]
    rfl
  have running : beforeDigits.core.registers.halted = false := by
    rw [core]
    exact holding_running digitsAtEnd
  have index : beforeDigits.core.registers.i = 0xFFE := by
    rw [core]
    rfl
  have fetched : beforeDigits.core.Fetches (Instruction.decimal 0).word :=
    Core.fetches_holding memory (by decide) counter
  have fails : (Instruction.decimal 0).Fails beforeDigits.dialect beforeDigits.core
      (.outOfBounds 0x1000 .notProgram) := by
    unfold Instruction.Fails
    rw [index]
    decide
  have failed : beforeDigits.step.result =
      .error (.trap ⟨.outOfBounds 0x1000 .notProgram, some 0x202⟩) := by
    refine (step_error_iff passive (by omega) running).mpr ⟨_, .failed fetched fails, ?_⟩
    rw [counter]
    rfl
  have leaves := beforeDigits_reached.step_leaves failed
  rw [cycles] at leaves
  exact ⟨failed, leaves⟩

end Machine

end Chip8
