import Chip8.Proofs.Machine.Listeners

/-! # What a cycle does

A cycle of a machine with passive subscribers ends in one of five ways, and `Machine.Cycle` has one
constructor for each: the machine is halted, no word can be read, the word is no instruction, the
instruction fails, or it is completed. All that is proved about cycles is proved by cases on these.
-/

namespace Chip8

/-- The core when a word has been read: the program counter is past it. -/
def Core.fetched (core : Core) (op : Opcode) : Core :=
  { core with registers := { core.registers with opcode := op, pc := core.registers.pc + 2 } }

/-- The core when a word was read that is no instruction. -/
def Core.stopped (core : Core) (op : Opcode) (halted : Bool) : Core :=
  { core with registers :=
      { core.registers with opcode := op, pc := core.registers.pc + 2, halted := halted } }

def Core.counted (core : Core) : Core :=
  { core with registers := { core.registers with cycles := core.registers.cycles + 1 } }

namespace Machine

variable (machine : Machine)

def withCore (core : Core) : Machine := { machine with core := core }

def noted (listing : Listing) : Machine := { machine with lastInstruction := some listing }

/-- The machine with a line in its log, if it keeps one. -/
def logged (listing : Listing) : Machine :=
  if machine.tracing then
    { machine with traceLog := machine.traceLog.push (machine.traceLine listing) }
  else machine

theorem logged_eq (listing : Listing) :
    machine.logged listing = { machine with traceLog := (machine.logged listing).traceLog } := by
  unfold logged
  split <;> rfl

@[simp] theorem logged_core (listing : Listing) : (machine.logged listing).core = machine.core :=
  (congrArg Machine.core (machine.logged_eq listing) :)

@[simp] theorem logged_subscribers (listing : Listing) :
    (machine.logged listing).subscribers = machine.subscribers :=
  (congrArg Machine.subscribers (machine.logged_eq listing) :)

@[simp] theorem logged_rom (listing : Listing) : (machine.logged listing).rom = machine.rom :=
  (congrArg Machine.rom (machine.logged_eq listing) :)

@[simp] theorem logged_lastInstruction (listing : Listing) :
    (machine.logged listing).lastInstruction = machine.lastInstruction :=
  (congrArg Machine.lastInstruction (machine.logged_eq listing) :)

theorem length_traceLog_logged (within : machine.traceLog.toList.length ≤ TraceLog.capacity)
    (listing : Listing) :
    (machine.logged listing).traceLog.toList.length ≤ TraceLog.capacity := by
  unfold logged
  split
  · exact machine.traceLog.length_toList_push_le _
  · exact within

def logNotes (listing : Listing) : List Effect :=
  if machine.tracing then [.recorded (Journal.debug (machine.traceLine listing))] else []

/-- The machine when the count and the tone have been brought up to date after an instruction. -/
def settled (core : Core) (listing : Listing) : Machine :=
  ((machine.withCore core.counted).noted listing).synced

def completed (core : Core) (listing : Listing) : Machine :=
  (machine.settled core listing).logged listing

@[simp] theorem completed_core (core : Core) (listing : Listing) :
    (machine.completed core listing).core = core.counted :=
  (machine.settled core listing).logged_core listing

@[simp] theorem completed_rom (core : Core) (listing : Listing) :
    (machine.completed core listing).rom = machine.rom :=
  (machine.settled core listing).logged_rom listing

@[simp] theorem completed_lastInstruction (core : Core) (listing : Listing) :
    (machine.completed core listing).lastInstruction = some listing :=
  (machine.settled core listing).logged_lastInstruction listing

@[simp] theorem completed_toneOn (core : Core) (listing : Listing) :
    (machine.completed core listing).toneOn = core.timers.sounding :=
  (congrArg Machine.toneOn ((machine.settled core listing).logged_eq listing) :)

@[simp] theorem completed_frameCount (core : Core) (listing : Listing) :
    (machine.completed core listing).frameCount = machine.frameCount :=
  (congrArg Machine.frameCount ((machine.settled core listing).logged_eq listing) :)

@[simp] theorem completed_dialect (core : Core) (listing : Listing) :
    (machine.completed core listing).dialect = machine.dialect :=
  (congrArg Machine.dialect ((machine.settled core listing).logged_eq listing) :)

theorem completed_passive (passive : machine.Passive) (core : Core) (listing : Listing) :
    (machine.completed core listing).Passive :=
  passive.of_subscribers ((machine.settled core listing).logged_subscribers listing)

def completedNotes (core : Core) (listing : Listing) : List Effect :=
  machine.notes (.beforeCycle machine.core.registers.cycles) ++
    ((machine.withCore core.counted).toneNotes ++
      ((machine.settled core listing).logNotes listing ++
        ((machine.completed core listing).notes (.executed listing) ++
          (machine.completed core listing).notes (.afterCycle (core.registers.cycles + 1)))))

/-- The ways in which a cycle can end. -/
inductive Cycle : Outcome Machine Unit → Prop where
  | idle (halted : machine.core.registers.halted = true) : Cycle ⟨.ok (), machine, []⟩
  | unread {fault : Fault} (running : machine.core.registers.halted = false)
      (refused : machine.core.memory.readOpcode machine.core.registers.pc = .error fault) :
      Cycle ⟨.error (.trap ⟨fault, some machine.core.registers.pc⟩), machine,
        machine.notes (.beforeCycle machine.core.registers.cycles)⟩
  | unknown {op : Opcode} (running : machine.core.registers.halted = false)
      (read : machine.core.memory.readOpcode machine.core.registers.pc = .ok op)
      (foreign : Instruction.decode? op = none) :
      Cycle ⟨.error (.trap ⟨.invalidOpcode op.word, some machine.core.registers.pc⟩),
        machine.withCore (machine.core.stopped op machine.haltOnInvalid),
        machine.notes (.beforeCycle machine.core.registers.cycles)⟩
  | failed {op : Opcode} {instruction : Instruction} {core : Core} {failure : Failure}
      (running : machine.core.registers.halted = false)
      (read : machine.core.memory.readOpcode machine.core.registers.pc = .ok op)
      (known : Instruction.decode? op = some instruction)
      (executed : instruction.execute machine.dialect (machine.core.fetched op) =
        (core, some failure)) :
      Cycle ⟨.error (failure.at machine.core.registers.pc), machine.withCore core,
        machine.notes (.beforeCycle machine.core.registers.cycles)⟩
  | done {op : Opcode} {instruction : Instruction} {core : Core}
      (running : machine.core.registers.halted = false)
      (read : machine.core.memory.readOpcode machine.core.registers.pc = .ok op)
      (known : Instruction.decode? op = some instruction)
      (executed : instruction.execute machine.dialect (machine.core.fetched op) = (core, none)) :
      Cycle ⟨.ok (), machine.completed core (instruction.listing machine.core.registers.pc op),
        machine.completedNotes core (instruction.listing machine.core.registers.pc op)⟩

end Machine

namespace Action

open Operation

variable {machine : Machine}

theorem trace_at (machine : Machine) (replaced : List Registers) (listing : Listing) :
    trace listing ⟨machine, replaced⟩ =
      ⟨.ok (), ⟨machine.logged listing, replaced⟩, machine.logNotes listing⟩ := by
  unfold trace Machine.logged Machine.logNotes
  refine (bind_of_silent (get_at _)).trans ?_
  by_cases tracing : machine.tracing
  · rw [if_pos tracing, if_pos tracing, if_pos tracing]
    rfl
  · rw [if_neg tracing, if_neg tracing, if_neg tracing]
    rfl

theorem registersOf_outermost (machine : Machine) :
    (⟨machine, []⟩ : Activity).registersOf 0 = machine.core.registers := rfl

theorem setRegistersOf_outermost (machine : Machine) (registers : Registers) :
    (⟨machine, []⟩ : Activity).setRegistersOf 0 registers = ⟨machine.setRegisters registers, []⟩ := rfl

theorem execute_unread {fault : Fault}
    (refused : machine.core.memory.readOpcode machine.core.registers.pc = .error fault) :
    execute 0 ⟨machine, []⟩ =
      ⟨.error (.trap ⟨fault, some machine.core.registers.pc⟩), ⟨machine, []⟩, []⟩ := by
  simp only [execute, registersOf_outermost, refused]

theorem execute_unknown {op : Opcode} (running : machine.core.registers.halted = false)
    (read : machine.core.memory.readOpcode machine.core.registers.pc = .ok op)
    (foreign : Instruction.decode? op = none) :
    execute 0 ⟨machine, []⟩ =
      ⟨.error (.trap ⟨.invalidOpcode op.word, some machine.core.registers.pc⟩),
        ⟨machine.withCore (machine.core.stopped op machine.haltOnInvalid), []⟩, []⟩ := by
  simp only [execute, registersOf_outermost, setRegistersOf_outermost, read, foreign, Core.stopped]
  cases halting : machine.haltOnInvalid with
  | true => rfl
  | false =>
      rw [if_neg (by decide), running]
      rfl

theorem execute_known {op : Opcode} {instruction : Instruction} {core : Core}
    {failure : Option Failure}
    (read : machine.core.memory.readOpcode machine.core.registers.pc = .ok op)
    (known : Instruction.decode? op = some instruction)
    (executed : instruction.execute machine.dialect (machine.core.fetched op) = (core, failure)) :
    execute 0 ⟨machine, []⟩ =
      ⟨match failure with
        | none => .ok (instruction.listing machine.core.registers.pc op)
        | some failure => .error (failure.at machine.core.registers.pc),
        ⟨machine.withCore core, []⟩, []⟩ := by
  have begun : instruction.execute (machine.setRegisters (machine.core.fetched op).registers).dialect
      (machine.setRegisters (machine.core.fetched op).registers).core = (core, failure) := executed
  simp only [Core.fetched] at begun
  simp only [execute, registersOf_outermost, setRegistersOf_outermost, read, known, begun]
  cases failure <;> rfl

/-- What is left of a cycle after its instruction: counting, the tone, the log, and the news. -/
def conclude (notify : Notifier) (listing : Listing) : Action Unit := do
  complete 0 listing
  syncSound notify
  trace listing
  notify (.executed listing)
  let after ← get
  notify (.afterCycle (after.registersOf 0).cycles)

theorem conclude_told {core : Core} {listing : Listing} {after : Machine} {tone : List Effect}
    (depth : Nat)
    (told : syncSound (Action.notify depth) ⟨(machine.withCore core.counted).noted listing, []⟩ =
      ⟨.ok (), ⟨after, []⟩, tone⟩)
    (executed : (after.logged listing).Ignored "instruction")
    (ended : (after.logged listing).Ignored "after_cycle") :
    conclude (Action.notify depth) listing ⟨machine.withCore core, []⟩ =
      ⟨.ok (), ⟨after.logged listing, []⟩,
        tone ++ (after.logNotes listing ++ ((after.logged listing).notes (.executed listing) ++
          (after.logged listing).notes (.afterCycle after.core.registers.cycles)))⟩ := by
  have counted : complete 0 listing ⟨machine.withCore core, []⟩ =
      ⟨.ok (), ⟨(machine.withCore core.counted).noted listing, []⟩, []⟩ := rfl
  have cycles : ((⟨after.logged listing, []⟩ : Activity).registersOf 0).cycles =
      after.core.registers.cycles := by
    change (after.logged listing).core.registers.cycles = _
    rw [Machine.logged_core]
  have news : Action.notify depth (.executed listing) ⟨after.logged listing, []⟩ = _ :=
    notify_ignored _ depth executed
  have last : Action.notify depth
      (.afterCycle ((⟨after.logged listing, []⟩ : Activity).registersOf 0).cycles)
        ⟨after.logged listing, []⟩ =
      ⟨.ok (), ⟨after.logged listing, []⟩,
        (after.logged listing).notes (.afterCycle after.core.registers.cycles)⟩ := by
    rw [cycles]
    exact notify_ignored _ depth ended
  refine (bind_of_silent counted).trans ?_
  refine bind_of_ok told (bind_of_ok (trace_at _ _ _) (bind_of_ok news ?_))
  exact (bind_of_silent (get_at _)).trans last

theorem conclude_passive (passive : machine.Passive) (depth : Nat) (core : Core) (listing : Listing) :
    conclude (Action.notify depth) listing ⟨machine.withCore core, []⟩ =
      ⟨.ok (), ⟨machine.completed core listing, []⟩,
        (machine.withCore core.counted).toneNotes ++
          ((machine.settled core listing).logNotes listing ++
            ((machine.completed core listing).notes (.executed listing) ++
              (machine.completed core listing).notes (.afterCycle (core.registers.cycles + 1))))⟩ := by
  have completedPassive := machine.completed_passive passive core listing
  exact conclude_told depth (syncSound_passive _ passive depth) (completedPassive.ignored _)
    (completedPassive.ignored _)

/-- A running machine announces the cycle, executes an instruction and, if that succeeded, concludes
the cycle. -/
theorem step_running (running : machine.core.registers.halted = false) (notify : Notifier)
    {outcome : Outcome Activity Unit}
    (rest : (notify (.beforeCycle machine.core.registers.cycles) >>= fun _ =>
      execute 0 >>= conclude notify) ⟨machine, []⟩ = outcome) :
    Action.step notify ⟨machine, []⟩ = outcome := by
  refine (bind_of_silent (get_at _)).trans ?_
  simp only [running]
  exact rest

/-- The action of a cycle ends in one of the five ways, whatever the depth to which reactions
may go. -/
theorem step_passive (passive : machine.Passive) (depth : Nat) :
    ∃ outcome, machine.Cycle outcome ∧
      Action.step (Action.notify depth) ⟨machine, []⟩ = outcome.atWork := by
  cases halted : machine.core.registers.halted with
  | true =>
      refine ⟨_, .idle halted, (bind_of_silent (get_at _)).trans ?_⟩
      simp only [halted, if_true]
      rfl
  | false =>
      have announced := notify_passive ⟨machine, []⟩ passive depth
        (.beforeCycle machine.core.registers.cycles)
      have stopping {failure : Failure} {after : Machine}
          (executed : execute 0 ⟨machine, []⟩ = ⟨.error failure, ⟨after, []⟩, []⟩) :
          Action.step (Action.notify depth) ⟨machine, []⟩ =
            Outcome.atWork ⟨.error failure, after,
              machine.notes (.beforeCycle machine.core.registers.cycles)⟩ :=
        step_running halted _ ((bind_of_ok announced (bind_of_error executed)).trans (by
          rw [List.append_nil]
          rfl))
      cases read : machine.core.memory.readOpcode machine.core.registers.pc with
      | error fault =>
          exact ⟨_, .unread halted read, stopping (execute_unread read)⟩
      | ok op =>
          cases known : Instruction.decode? op with
          | none => exact ⟨_, .unknown halted read known, stopping (execute_unknown halted read known)⟩
          | some instruction =>
              cases executed : instruction.execute machine.dialect (machine.core.fetched op) with
              | mk core failure =>
                  have work := execute_known read known executed
                  cases failure with
                  | some failure => exact ⟨_, .failed halted read known executed, stopping work⟩
                  | none =>
                      refine ⟨_, .done halted read known executed, step_running halted _ ?_⟩
                      exact bind_of_ok announced
                        ((bind_of_silent work).trans (conclude_passive passive depth core _))

end Action

namespace Machine

variable {machine : Machine}

theorem step_cycle (passive : machine.Passive) : machine.Cycle machine.step := by
  obtain ⟨outcome, cycle, work⟩ := Action.step_passive passive nesting
  have same : machine.step = outcome := perform_of _ work
  rw [same]
  exact cycle

theorem Cycle.unique {first second : Outcome Machine Unit} (one : machine.Cycle first)
    (other : machine.Cycle second) : first = second := by
  -- Two different ways contradict each other about the halt, the reading, the word or the failure.
  cases one <;> cases other <;> simp_all

theorem step_eq (passive : machine.Passive) {outcome : Outcome Machine Unit}
    (cycle : machine.Cycle outcome) : machine.step = outcome :=
  (step_cycle passive).unique cycle

theorem step_of_ok (passive : machine.Passive) (running : machine.core.registers.halted = false)
    (completed : machine.step.result = .ok ()) :
    ∃ op instruction core,
      machine.core.memory.readOpcode machine.core.registers.pc = .ok op ∧
      Instruction.decode? op = some instruction ∧
      instruction.execute machine.dialect (machine.core.fetched op) = (core, none) ∧
      machine.step =
        ⟨.ok (), machine.completed core (instruction.listing machine.core.registers.pc op),
          machine.completedNotes core (instruction.listing machine.core.registers.pc op)⟩ := by
  have cycle := step_cycle passive
  generalize machine.step = outcome at cycle completed
  cases cycle with
  | idle halted =>
      rw [running] at halted
      cases halted
  | unread => cases completed
  | unknown => cases completed
  | failed => cases completed
  | done _ read known executed => exact ⟨_, _, _, read, known, executed, rfl⟩

theorem step_lists (passive : machine.Passive) (running : machine.core.registers.halted = false)
    (completed : machine.step.result = .ok ()) :
    ∃ op instruction, machine.core.memory.readOpcode machine.core.registers.pc = .ok op ∧
      Instruction.decode? op = some instruction ∧
      machine.step.state.lastInstruction =
        some (instruction.listing machine.core.registers.pc op) := by
  obtain ⟨op, instruction, core, read, known, _, step⟩ := step_of_ok passive running completed
  refine ⟨op, instruction, read, known, ?_⟩
  rw [step]
  exact machine.completed_lastInstruction core _

theorem step_core (passive : machine.Passive) {op : Opcode} {instruction : Instruction}
    {core : Core} (running : machine.core.registers.halted = false)
    (read : machine.core.memory.readOpcode machine.core.registers.pc = .ok op)
    (known : Instruction.decode? op = some instruction)
    (executed : instruction.execute machine.dialect (machine.core.fetched op) = (core, none)) :
    machine.step.state.core = core.counted := by
  rw [step_eq passive (.done running read known executed)]
  exact machine.completed_core core _

theorem step_work (passive : machine.Passive) :
    Action.step (Action.notify nesting) ⟨machine, []⟩ = machine.step.atWork := by
  obtain ⟨outcome, _, work⟩ := Action.step_passive passive nesting
  have same : machine.step = outcome := perform_of _ work
  rw [same]
  exact work

end Machine

end Chip8
