import Chip8.Machine.Panel
import Chip8.Proofs.Machine.Bounds

/-! # Watching a machine

Those who listen to a machine, and the log that it keeps, make no difference to it. A machine that is
watched goes through the same states as one that is not, and its commands end alike; what the watched
one makes known beyond the other are the notes and the lines of the log: `run_unperturbed`.
-/

namespace Chip8

def Command.watches : Command → Bool
  | .listen .. | .setTracing _ => true
  | _ => false

/-- Whether an effect is there only for those who watch: a note, or the record of a line of the
log. -/
def Effect.watched : Effect → Bool
  | .notified .. => true
  | .recorded record => record.level == .debug

def unwatchedEffects (effects : List Effect) : List Effect := effects.filter fun effect => !effect.watched

@[simp] theorem unwatchedEffects_append (first second : List Effect) :
    unwatchedEffects (first ++ second) = unwatchedEffects first ++ unwatchedEffects second :=
  List.filter_append ..

namespace Machine

/-- The machine without listeners and without a log. -/
def unwatched (machine : Machine) : Machine :=
  { machine with
    subscribers := []
    tracing := false
    traceLog := .empty }

end Machine

/-- What is left of an outcome without listeners and without a log. -/
def Outcome.unwatched (outcome : Outcome Machine Unit) : Outcome Machine Unit :=
  ⟨outcome.result, outcome.state.unwatched, unwatchedEffects outcome.effects⟩

namespace Machine

variable {machine : Machine}

@[simp] theorem notes_unwatched (machine : Machine) (event : Event) :
    machine.unwatched.notes event = [] := rfl

@[simp] theorem toneNotes_unwatched (machine : Machine) : machine.unwatched.toneNotes = [] := by
  unfold toneNotes
  split <;> rfl

@[simp] theorem unwatchedEffects_notes (machine : Machine) (event : Event) :
    unwatchedEffects (machine.notes event) = [] := by
  refine List.filter_eq_nil_iff.mpr fun effect told => ?_
  obtain ⟨subscriber, _, rfl⟩ := List.mem_map.mp told
  simp [Effect.watched]

@[simp] theorem unwatchedEffects_toneNotes (machine : Machine) :
    unwatchedEffects machine.toneNotes = [] := by
  unfold toneNotes
  split
  · rfl
  · exact unwatchedEffects_notes _ _

@[simp] theorem unwatchedEffects_logNotes (machine : Machine) (listing : Listing) :
    unwatchedEffects (machine.logNotes listing) = [] := by
  unfold logNotes
  split <;> rfl

theorem logged_unwatched (machine : Machine) (listing : Listing) :
    (machine.logged listing).unwatched = machine.unwatched := by
  rw [logged_eq]
  rfl

theorem completed_unwatched (machine : Machine) (core : Core) (listing : Listing) :
    machine.unwatched.completed core listing = (machine.completed core listing).unwatched :=
  ((machine.settled core listing).logged_unwatched listing).symm

theorem completedNotes_unwatched (machine : Machine) (core : Core) (listing : Listing) :
    machine.unwatched.completedNotes core listing =
      unwatchedEffects (machine.completedNotes core listing) := by
  have counted : (machine.unwatched.withCore core.counted).toneNotes = [] :=
    (machine.withCore core.counted).toneNotes_unwatched
  unfold completedNotes
  rw [completed_unwatched, counted]
  simp
  rfl

theorem Cycle.unwatched {outcome : Outcome Machine Unit} (cycle : machine.Cycle outcome) :
    machine.unwatched.Cycle outcome.unwatched := by
  unfold Outcome.unwatched
  cases cycle with
  | idle halted => exact .idle halted
  | unread running refused =>
      rw [unwatchedEffects_notes]
      exact .unread running refused
  | unknown running read foreign =>
      rw [unwatchedEffects_notes]
      exact .unknown running read foreign
  | failed running read known executed =>
      rw [unwatchedEffects_notes]
      exact .failed running read known executed
  | done running read known executed =>
      rw [← completedNotes_unwatched, ← completed_unwatched]
      exact .done running read known executed

theorem unwatched_passive (machine : Machine) : machine.unwatched.Passive := by
  intro subscriber member
  cases member

theorem step_unwatched (passive : machine.Passive) :
    machine.unwatched.step = machine.step.unwatched :=
  step_eq machine.unwatched_passive (step_cycle passive).unwatched

theorem cycles_unwatched (passive : machine.Passive) (count : Nat) :
    machine.unwatched.cycles count = (machine.cycles count).unwatched := by
  induction count generalizing machine with
  | zero => rfl
  | succ count ih =>
      have same : machine.unwatched.core.registers.halted = machine.core.registers.halted := rfl
      have later := ih (passive.of_subscribers (step_subscribers passive))
      unfold cycles
      rw [same, step_unwatched passive]
      split
      · rfl
      · rcases stepped : machine.step with ⟨_ | _, after, effects⟩
        · rfl
        · rw [stepped] at later
          simp only [Outcome.unwatched] at later ⊢
          rw [later, unwatchedEffects_append]

theorem frame_unwatched (passive : machine.Passive) :
    machine.unwatched.frame = machine.frame.unwatched := by
  have nobody := machine.unwatched_passive
  have cycled := cycles_unwatched passive machine.frameCycles
  rcases result : machine.cycles machine.frameCycles with ⟨failure | _, after, effects⟩
  · rw [result] at cycled
    rw [frame_of_error passive result, frame_of_error nobody cycled]
    rfl
  · rw [result] at cycled
    have silent : (after.unwatched.withCore
        { after.unwatched.core with timers := after.unwatched.core.timers.tick }).toneNotes = [] :=
      toneNotes_unwatched after.elapsed
    rw [frame_of_ok passive result, frame_of_ok nobody cycled, silent]
    simp only [Outcome.unwatched, unwatchedEffects_append, unwatchedEffects_toneNotes,
      unwatchedEffects_notes]
    rfl

theorem obey_unwatched (regular : machine.Regular) {command : Command}
    (plain : command.watches = false) :
    machine.unwatched.obey command = (machine.obey command).unwatched := by
  have passive := regular.passive
  have nobody := machine.unwatched_passive
  have silent : machine.unwatched.powerOn.toneNotes = [] := toneNotes_unwatched machine.powerOn
  cases command with
  | load rom =>
      rw [obey, obey, load_eq passive rom.property, load_eq nobody rom.property, silent]
      simp only [Outcome.unwatched, unwatchedEffects_append, unwatchedEffects_toneNotes]
      rfl
  | reset =>
      rw [obey, obey, reset_eq passive regular.accepted, reset_eq nobody regular.accepted, silent]
      simp only [Outcome.unwatched, unwatchedEffects_append, unwatchedEffects_toneNotes]
      rfl
  | input key pressed =>
      rw [obey, obey]
      cases taken : machine.core.keypad.set key pressed with
      | error failure =>
          have same : machine.unwatched.core.keypad.set key pressed = .error failure := taken
          rw [input_of_error taken, input_of_error same]
          rfl
      | ok keypad =>
          have same : machine.unwatched.core.keypad.set key pressed = .ok keypad := taken
          rw [input_of_ok taken, input_of_ok same]
          rfl
  | step => exact step_unwatched passive
  | tick =>
      have quiet : machine.unwatched.elapsed.toneNotes = [] := toneNotes_unwatched machine.elapsed
      rw [obey, obey, tick_eq passive, tick_eq nobody]
      simp only [Outcome.unwatched, unwatchedEffects_toneNotes]
      exact congrArg (Outcome.mk _ _) quiet
  | frame => exact frame_unwatched passive
  | listen => cases plain
  | setTracing => cases plain
  | _ => rfl

theorem obey_watching (machine : Machine) {command : Command} (watching : command.watches = true) :
    (machine.obey command).state.unwatched = machine.unwatched := by
  cases command with
  | listen | setTracing => rfl
  | _ => cases watching

/-- How those commands ended that are not about watching. -/
def answers (machine : Machine) : List Command → List (Outcome Machine Unit)
  | [] => []
  | command :: rest =>
      if command.watches then (machine.obey command).state.answers rest
      else machine.obey command :: (machine.obey command).state.answers rest

theorem outcomes_unwatched (regular : machine.Regular) (commands : List Command) :
    machine.unwatched.outcomes (commands.filter fun command => !command.watches) =
        (machine.answers commands).map Outcome.unwatched ∧
      machine.unwatched.run (commands.filter fun command => !command.watches) =
        (machine.run commands).unwatched := by
  induction commands generalizing machine with
  | nil => exact ⟨rfl, rfl⟩
  | cons command rest ih =>
      obtain ⟨outcomes, run⟩ := ih (regular_kept.obey regular regular command)
      cases watching : command.watches with
      | true =>
          -- The command is left out on the other side, where it would have changed nothing.
          rw [obey_watching machine watching] at outcomes run
          simp only [List.filter_cons, watching, answers, if_true]
          exact ⟨outcomes, run⟩
      | false =>
          have first := obey_unwatched regular watching
          simp only [List.filter_cons, watching, answers]
          refine ⟨?_, ?_⟩
          · change machine.unwatched.obey command ::
              (machine.unwatched.obey command).state.outcomes _ = _
            rw [first, Outcome.unwatched, outcomes]
            rfl
          · change (machine.unwatched.obey command).state.run _ = _
            rw [first]
            exact run

/-- The table of the machine's state, with its caption asked of the stack, which has to have an address
on top for that. -/
def askTable (machine : Machine) : Except Fault Table := do
  let caption ←
    if machine.core.stack.toList = [] then pure none
    else do
      let address ← machine.core.stack.peek
      pure (some ("RET -> " ++ Numeral.marked 4 address.toNat))
  return { machine.stateTable with caption := caption }

theorem askTable_eq (machine : Machine) : machine.askTable = .ok machine.stateTable := by
  unfold askTable
  rw [CallStack.peek_eq]
  cases last : machine.core.stack.toList.getLast? with
  | none =>
      have caption : machine.stateTable.caption = none := by simp [stateTable, last]
      rw [if_pos (List.getLast?_eq_none_iff.mp last), ← caption]
      rfl
  | some address =>
      have caption : machine.stateTable.caption =
          some ("RET -> " ++ Numeral.marked 4 address.toNat) := by simp [stateTable, last]
      have live : machine.core.stack.toList ≠ [] := by
        intro empty
        rw [empty] at last
        cases last
      have table : { machine.stateTable with
          caption := some ("RET -> " ++ Numeral.marked 4 address.toNat) } = machine.stateTable := by
        rw [← caption]
      rw [if_neg live]
      exact congrArg Except.ok table

theorem Bounded.lastLine (bounded : machine.Bounded) :
    (∃ line, machine.lastLine = .ok line) ↔ machine.core.registers.cycles ≠ 0 := by
  rw [ne_eq, ← bounded.counted]
  unfold Machine.lastLine
  cases machine.lastInstruction <;> simp

/-- A run with commands about watching, and the same run without them. -/
structure Unperturbed (machine : Machine) (commands : List Command) : Prop where
  /-- All other commands end alike, with the same failures, and each of them leaves the same state. -/
  outcomes : machine.outcomes (commands.filter fun command => !command.watches) =
    (machine.answers commands).map Outcome.unwatched
  state : machine.run (commands.filter fun command => !command.watches) =
    (machine.run commands).unwatched
  /-- There is a line for the log as soon as an instruction has been completed. -/
  line : (∃ line, (machine.run commands).lastLine = .ok line) ↔
    (machine.run commands).core.registers.cycles ≠ 0
  table : (machine.run commands).askTable = .ok (machine.run commands).stateTable

/-- Whoever listens to a machine, and whenever its log is switched on and off, it does what it does
without. A new machine has no listeners and keeps no log. -/
theorem run_unperturbed (dialect : Dialect) (random : RandomSource) (cyclesPerFrame : Int)
    (commands : List Command) : (create dialect random cyclesPerFrame).Unperturbed commands := by
  have regular := create_regular dialect random cyclesPerFrame
  obtain ⟨outcomes, state⟩ := outcomes_unwatched regular commands
  have bounded := bounded_kept.run regular (create_bounded dialect random cyclesPerFrame) commands
  exact ⟨outcomes, state, bounded.lastLine, askTable_eq _⟩

end Machine

end Chip8
