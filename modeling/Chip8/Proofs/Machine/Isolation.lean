import Chip8.Proofs.Machine.Schedule

/-! # Timers and keypad at a distance

The timers and the keypad reach a program through the instructions that read them and in no other
way. Two schedules whose ticks differ make no difference to a program that does not read the delay
timer, and two whose key input differs make none to one that does not read the keypad:
`Reached.conduct_agrees`.
-/

namespace Chip8

/-- How a cycle ended, and what it left of all that a program can see of itself. -/
structure Conduct where
  result : Except Failure Unit
  registers : Registers
  memory : Memory
  stack : CallStack
  screen : Screen
  random : RandomSource
  lastInstruction : Option Listing

/-- An instruction that does not read what is different does the same with other timers and another
keypad, and what it leaves of the timers depends on what they were. -/
theorem Instruction.execute_beside {instruction : Instruction} {dialect : Dialect}
    {core after : Core} {failure : Option Failure} {timers : Timers} {keypad : Keypad}
    (sameDelay : instruction.ReadsTimer → timers.delay = core.timers.delay)
    (sameKeys : instruction.ReadsKeypad → keypad = core.keypad)
    (executed : instruction.execute dialect core = (after, failure)) :
    ∃ timersLeft,
      instruction.execute dialect (core.amid core.random timers keypad) =
        (after.amid after.random timersLeft keypad, failure) ∧
      (timers = core.timers → timersLeft = after.timers) := by
  have work : instruction.execute dialect (core.amid core.random timers keypad) = _ :=
    instruction.execute_amid dialect rfl sameDelay sameKeys
  have random := instruction.execute_random dialect core
  have left := instruction.execute_timers dialect core
  have sameRandom : instruction.randomAfter (core.amid core.random timers keypad) =
      instruction.randomAfter core := by
    cases instruction <;> rfl
  rw [executed] at work random left
  rw [sameRandom, ← random] at work
  refine ⟨_, work, ?_⟩
  rintro rfl
  rw [left]
  cases instruction <;> rfl

namespace Machine

variable {machine : Machine}

def conduct (machine : Machine) : Conduct where
  result := machine.step.result
  registers := machine.step.state.core.registers
  memory := machine.step.state.core.memory
  stack := machine.step.state.core.stack
  screen := machine.step.state.core.screen
  random := machine.step.state.core.random
  lastInstruction := machine.step.state.lastInstruction

theorem completed_eq (machine : Machine) (core : Core) (listing : Listing) :
    machine.completed core listing =
      { machine with
        core := core.counted
        lastInstruction := some listing
        toneOn := core.timers.sounding
        traceLog := (machine.completed core listing).traceLog } :=
  (machine.settled core listing).logged_eq listing

theorem Cycle.keypad {outcome : Outcome Machine Unit} (cycle : machine.Cycle outcome) :
    outcome.state.core.keypad = machine.core.keypad := by
  cases cycle with
  | @failed op instruction core failure _ _ _ executed =>
      have around := instruction.execute_surroundings machine.dialect (machine.core.fetched op)
      rw [executed] at around
      exact congrArg Surroundings.keypad around
  | @done op instruction core _ _ _ executed =>
      have around := instruction.execute_surroundings machine.dialect (machine.core.fetched op)
      rw [executed] at around
      rw [completed_core]
      exact congrArg Surroundings.keypad around
  | _ => rfl

theorem completed_beside (machine : Machine) (timers : Timers) (keypad : Keypad) (toneOn : Bool)
    (traceLog : TraceLog) (core : Core) (timersLeft : Timers) (listing : Listing) :
    ∃ logLeft,
      (machine.beside timers keypad toneOn traceLog).completed
          (core.amid core.random timersLeft keypad) listing =
        (machine.completed core listing).beside timersLeft keypad timersLeft.sounding logLeft := by
  refine ⟨((machine.beside timers keypad toneOn traceLog).completed
    (core.amid core.random timersLeft keypad) listing).traceLog, ?_⟩
  rw [completed_eq, machine.completed_eq]
  rfl

theorem step_beside (passive : machine.Passive) {timers : Timers} {keypad : Keypad}
    (toneOn : Bool) (traceLog : TraceLog)
    (sameDelay : ∀ instruction : Instruction, machine.Executes instruction →
      instruction.ReadsTimer → timers.delay = machine.core.timers.delay)
    (sameKeys : ∀ instruction : Instruction, machine.Executes instruction →
      instruction.ReadsKeypad → keypad = machine.core.keypad) :
    (machine.beside timers keypad toneOn traceLog).step.result = machine.step.result ∧
      ∃ timersLeft toneLeft logLeft,
        (machine.beside timers keypad toneOn traceLog).step.state =
          machine.step.state.beside timersLeft keypad toneLeft logLeft ∧
        (timers = machine.core.timers → timersLeft = machine.step.state.core.timers) := by
  have besidePassive : (machine.beside timers keypad toneOn traceLog).Passive := passive
  have cycle := step_cycle passive
  generalize machine.step = outcome at cycle
  -- The other machine's cycle goes the same way.
  cases cycle with
  | idle halted =>
      rw [step_eq besidePassive (.idle halted)]
      exact ⟨rfl, timers, toneOn, traceLog, rfl, id⟩
  | unread running refused =>
      rw [step_eq besidePassive (.unread running refused)]
      exact ⟨rfl, timers, toneOn, traceLog, rfl, id⟩
  | unknown running read foreign =>
      rw [step_eq besidePassive (.unknown running read foreign)]
      exact ⟨rfl, timers, toneOn, traceLog, rfl, id⟩
  | @failed op instruction core failure running read known executed =>
      have executing := executes_iff.mpr ⟨running, op, read, known⟩
      have delay : instruction.ReadsTimer →
          timers.delay = (machine.core.fetched op).timers.delay := sameDelay instruction executing
      have keys : instruction.ReadsKeypad → keypad = (machine.core.fetched op).keypad :=
        sameKeys instruction executing
      obtain ⟨timersLeft, work, same⟩ := Instruction.execute_beside delay keys executed
      rw [step_eq besidePassive (.failed running read known work)]
      exact ⟨rfl, timersLeft, toneOn, traceLog, rfl, same⟩
  | @done op instruction core running read known executed =>
      have executing := executes_iff.mpr ⟨running, op, read, known⟩
      have delay : instruction.ReadsTimer →
          timers.delay = (machine.core.fetched op).timers.delay := sameDelay instruction executing
      have keys : instruction.ReadsKeypad → keypad = (machine.core.fetched op).keypad :=
        sameKeys instruction executing
      obtain ⟨timersLeft, work, same⟩ := Instruction.execute_beside delay keys executed
      obtain ⟨logLeft, completed⟩ := machine.completed_beside timers keypad toneOn traceLog core
        timersLeft (instruction.listing machine.core.registers.pc op)
      rw [step_eq besidePassive (.done running read known work)]
      refine ⟨rfl, timersLeft, _, logLeft, completed, ?_⟩
      rw [completed_core]
      exact same

/-- By induction on the schedule: before each cycle the machines differ in what lies beside the
program at most. What can be read of it is the same still, or it is never read. -/
theorem beginnings_beside (passive : machine.Passive) {gaps others : List (List Interlude)}
    (paired : gaps.length = others.length) {timers : Timers} {keypad : Keypad}
    (toneOn : Bool) (traceLog : TraceLog)
    (timed : (timers = machine.core.timers ∧ gaps.map ticks = others.map ticks) ∨
      machine.Avoids gaps Instruction.ReadsTimer)
    (keyed : (keypad = machine.core.keypad ∧ gaps.map inputs = others.map inputs) ∨
      machine.Avoids gaps Instruction.ReadsKeypad) :
    ((machine.beside timers keypad toneOn traceLog).beginnings others).map conduct =
      (machine.beginnings gaps).map conduct := by
  induction gaps generalizing machine others timers keypad toneOn traceLog with
  | nil =>
      cases List.length_eq_zero_iff.mp paired.symm
      rfl
  | cons gap rest ih =>
      obtain ⟨other, others, rfl⟩ := List.exists_cons_of_length_eq_add_one paired.symm
      simp only [List.map_cons, List.cons.injEq] at timed keyed
      obtain ⟨tone, waits⟩ := waited_eq passive gap
      have besidePassive : (machine.beside timers keypad toneOn traceLog).Passive := passive
      obtain ⟨otherTone, otherWaits⟩ := waited_eq besidePassive other
      have stillPassive := waited_passive passive gap
      have sameStart : (machine.beside timers keypad toneOn traceLog).waited other =
          (machine.waited gap).beside (timers.passed (ticks other))
            ((inputs other).foldl Keypad.told keypad) otherTone traceLog := by
        rw [otherWaits, waits]
        rfl
      -- After the gap what can be read is the same again, if it was the same before.
      have clocks : (timers.passed (ticks other) = (machine.waited gap).core.timers ∧
          rest.map ticks = others.map ticks) ∨ machine.Avoids (gap :: rest) Instruction.ReadsTimer := by
        rw [waits]
        exact timed.imp_left fun ⟨same, head, tail⟩ => ⟨by rw [same, head]; rfl, tail⟩
      have keys : ((inputs other).foldl Keypad.told keypad = (machine.waited gap).core.keypad ∧
          rest.map inputs = others.map inputs) ∨
            machine.Avoids (gap :: rest) Instruction.ReadsKeypad := by
        rw [waits]
        exact keyed.imp_left fun ⟨same, head, tail⟩ => ⟨by rw [same, head]; rfl, tail⟩
      have sameDelay (instruction : Instruction) (executing : (machine.waited gap).Executes instruction)
          (reading : instruction.ReadsTimer) :
          (timers.passed (ticks other)).delay = (machine.waited gap).core.timers.delay := by
        obtain ⟨same, _⟩ | never := clocks
        · rw [same]
        · exact absurd reading (never.cons.1 instruction executing)
      have sameKeys (instruction : Instruction) (executing : (machine.waited gap).Executes instruction)
          (reading : instruction.ReadsKeypad) :
          (inputs other).foldl Keypad.told keypad = (machine.waited gap).core.keypad := by
        obtain ⟨same, _⟩ | never := keys
        · exact same
        · exact absurd reading (never.cons.1 instruction executing)
      obtain ⟨result, timersLeft, toneLeft, logLeft, state, unchanged⟩ :=
        step_beside stillPassive otherTone traceLog sameDelay sameKeys
      have sameKeypad := (step_cycle stillPassive).keypad
      have later := ih (stillPassive.of_subscribers (step_subscribers stillPassive))
        (Nat.succ.inj paired) toneLeft logLeft
        (clocks.imp (fun same => ⟨unchanged same.1, same.2⟩) fun never => never.cons.2)
        (keys.imp (fun same => ⟨same.1.trans sameKeypad.symm, same.2⟩) fun never => never.cons.2)
      rw [beginnings, beginnings, List.map_cons, List.map_cons, sameStart, state, later, conduct,
        result, state]
      rfl

/-- Timers and keypad reach a program only through the instructions that read them. The cycles of two
schedules go the same way for it, if each gap has as many ticks in both or the delay timer is never
read in the first one, and each gap has the same key input in both or the keypad is never read in the
first one. What comes before the first cycle is a gap as well. -/
theorem Reached.conduct_agrees (reached : machine.Reached) {gaps others : List (List Interlude)}
    (paired : gaps.length = others.length)
    (timed : gaps.map ticks = others.map ticks ∨
      ∀ before ∈ machine.beginnings gaps, ∀ x, ¬before.Executes (.readDelay x))
    (keyed : gaps.map inputs = others.map inputs ∨
      ∀ before ∈ machine.beginnings gaps, ∀ x,
        ¬before.Executes (.skip (.keyDown x)) ∧ ¬before.Executes (.skip (.keyUp x)) ∧
          ¬before.Executes (.awaitKey x)) :
    (machine.beginnings others).map conduct = (machine.beginnings gaps).map conduct := by
  have passive := reached.regular.passive
  change ((machine.beside machine.core.timers machine.core.keypad machine.toneOn
    machine.traceLog).beginnings others).map conduct = _
  refine beginnings_beside passive paired machine.toneOn machine.traceLog ?_ ?_
  · refine timed.imp (fun same => ⟨rfl, same⟩) fun never before member instruction executing => ?_
    cases instruction with
    | readDelay x => exact absurd executing (never before member x)
    | _ => exact id
  · refine keyed.imp (fun same => ⟨rfl, same⟩) fun never before member instruction executing => ?_
    cases instruction with
    | skip condition =>
        cases condition with
        | keyDown x => exact absurd executing (never before member x).1
        | keyUp x => exact absurd executing (never before member x).2.1
        | _ => exact id
    | awaitKey x => exact absurd executing (never before member x).2.2
    | _ => exact id

/-- A program that sets the delay timer to five, and never looks at it. -/
def fuse : { rom : Rom // rom.Accepted } :=
  ⟨⟨"", #[0x60, 0x05, 0xF0, 0x15]⟩, Rom.accepted_of_size (by decide) (by decide)⟩

theorem Standing.fuse_executes (start : Standing fuse.val.data 0 [] machine)
    (gap next : List Interlude) {before : Machine} (begins : before ∈ machine.beginnings [gap, next])
    {instruction : Instruction} (executing : before.Executes instruction) :
    instruction = .load 0 5 ∨ instruction = .setDelay 0 := by
  have waiting := start.waited gap
  have later : Standing fuse.val.data 2 [] ((machine.waited gap).step.state.waited next) :=
    (waiting.load 0 5 (by decide) (by decide)).1.waited next
  simp only [beginnings, List.mem_cons, List.not_mem_nil, or_false] at begins
  obtain rfl | rfl := begins
  · exact .inl (executing.unique (waiting.executing _ (by decide) (by decide)))
  · exact .inr (executing.unique (later.executing _ (by decide) (by decide)))

/-- It burns alike, whatever is ticked and whatever keys are pressed before its cycles. -/
theorem fuse_conduct_agrees :
    ((holding fuse).beginnings [[], [.input 0xF true, .tick, .tick]]).map conduct =
      ((holding fuse).beginnings [[.tick, .input 3 true], [.tick]]).map conduct := by
  have start := holding_standing fuse
  have blind (instruction : Instruction) (other : instruction ≠ .load 0 5 ∧ instruction ≠ .setDelay 0)
      {before : Machine}
      (begins : before ∈ (holding fuse).beginnings [[.tick, .input 3 true], [.tick]]) :
      ¬before.Executes instruction :=
    fun executing => (start.fuse_executes _ _ begins executing).elim other.1 other.2
  refine start.reached.conduct_agrees rfl (.inr fun before begins x => ?_)
    (.inr fun before begins x => ⟨?_, ?_, ?_⟩)
  all_goals exact blind _ ⟨by rintro ⟨⟩, by rintro ⟨⟩⟩ begins

end Machine

end Chip8
