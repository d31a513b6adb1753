import Chip8.Proofs.Machine.Tone

namespace Chip8

def Effect.notifies : Effect → Bool
  | .notified .. => true
  | .recorded _ => false

def notifications (effects : List Effect) : List Effect := effects.filter Effect.notifies

theorem notifications_append (first second : List Effect) :
    notifications (first ++ second) = notifications first ++ notifications second :=
  List.filter_append ..

theorem notifications_recorded (effects : List Effect) (record : Journal.Record) :
    notifications (effects ++ [.recorded record]) = notifications effects :=
  (notifications_append _ _).trans (List.append_nil _)

def Command.restarts : Command → Bool
  | .load _ | .reset => true
  | _ => false

/-- Whether there may be cycles in the course of a command. -/
def Command.executes : Command → Bool
  | .step | .frame => true
  | _ => false

def Event.completed? : Event → Option Nat
  | .afterCycle cycles => some cycles
  | _ => none

/-- A cycle begins with the number of those completed before it, of which there are `before` at first,
and is completed with the next number. In the end there are `after`. -/
def Tallies (before : Nat) : List Event → Nat → Prop
  | [], after => before = after
  | .beforeCycle cycles :: rest, after => cycles = before ∧ Tallies before rest after
  | .afterCycle cycles :: rest, after => cycles = before + 1 ∧ Tallies (before + 1) rest after
  | _ :: rest, after => Tallies before rest after

namespace Tallies

variable {before middle after : Nat} {first second events : List Event}

theorem append (one : Tallies before first middle) (other : Tallies middle second after) :
    Tallies before (first ++ second) after := by
  induction first generalizing before with
  | nil =>
      cases one
      exact other
  | cons event rest ih =>
      cases event with
      | beforeCycle | afterCycle => exact ⟨one.1, ih one.2⟩
      | _ => exact ih one

theorem consecutive (tallies : Tallies before events after) :
    before ≤ after ∧ events.filterMap Event.completed? = List.range' (before + 1) (after - before) := by
  induction events generalizing before with
  | nil =>
      cases tallies
      simp
  | cons event rest ih =>
      cases event with
      | afterCycle cycles =>
          obtain ⟨rfl, later⟩ := tallies
          obtain ⟨below, numbers⟩ := ih later
          have more : after - before = after - (before + 1) + 1 := by omega
          refine ⟨by omega, ?_⟩
          rw [more, List.range'_succ, ← numbers]
          rfl
      | beforeCycle cycles => exact ih tallies.2
      | _ => exact ih tallies

end Tallies

namespace Machine

variable (machine : Machine)

def telling (event : Event) : List Effect :=
  (machine.subscribersOf event.name).map fun subscriber => .notified subscriber.label event

def toneEvents (before after : Timers) : List Event :=
  if after.sounding = before.sounding then [] else [.sound after.sounding]

def stepEvents : List Event :=
  if machine.core.registers.halted then []
  else
    .beforeCycle machine.core.registers.cycles ::
      match machine.step.result with
      | .error _ => []
      | .ok _ =>
          toneEvents machine.core.timers machine.step.state.core.timers ++
            (machine.step.state.lastInstruction.toList.map .executed ++
              [.afterCycle (machine.core.registers.cycles + 1)])

def succeeds : Bool :=
  !machine.core.registers.halted &&
    match machine.step.result with
    | .error _ => false
    | .ok _ => true

/-- The machine as it is whenever one of so many cycles begins. -/
def starts (machine : Machine) : Nat → List Machine
  | 0 => []
  | count + 1 =>
      if machine.core.registers.halted then []
      else
        machine ::
          match machine.step.result with
          | .error _ => []
          | .ok _ => starts machine.step.state count

/-- The machine as it is whenever it comes to a cycle while it obeys. -/
def begins : Command → List Machine
  | .step => [machine]
  | .frame => machine.starts machine.frameCycles
  | _ => []

/-- The events of a command behind those of its cycles. -/
def closing : Command → List Event
  | .step => []
  | .frame =>
      match machine.frame.result with
      | .error _ => []
      | .ok _ =>
          toneEvents (machine.cycles machine.frameCycles).state.core.timers
              machine.frame.state.core.timers ++
            [.frameComplete machine.frame.state.core.screen]
  | command => toneEvents machine.core.timers (machine.obey command).state.core.timers

def announced (command : Command) : List Event :=
  (machine.begins command).flatMap stepEvents ++ machine.closing command

def stream (machine : Machine) : List Command → List Event
  | [] => []
  | command :: rest => machine.announced command ++ (machine.obey command).state.stream rest

def successes (machine : Machine) : List Command → Nat
  | [] => 0
  | command :: rest =>
      (machine.begins command).countP succeeds + (machine.obey command).state.successes rest

variable {machine} {commands : List Command}

theorem notifications_notes {after : Machine} (same : after.subscribers = machine.subscribers)
    {event : Event} (current : event.seenWith after.core.screen = event) :
    notifications (after.notes event) = machine.telling event := by
  have told : notifications (after.notes event) = after.notes event := by
    refine List.filter_eq_self.mpr fun effect among => ?_
    obtain ⟨subscriber, _, rfl⟩ := List.mem_map.mp among
    rfl
  rw [told, notes, telling, subscribersOf, subscribersOf, same, current]

theorem notifications_logNotes (machine : Machine) (listing : Listing) :
    notifications (machine.logNotes listing) = [] := by
  unfold logNotes
  split <;> rfl

theorem telling_of_subscribers {after : Machine} (same : after.subscribers = machine.subscribers) :
    after.telling = machine.telling := by
  funext event
  simp only [telling, subscribersOf, same]

theorem notifications_toneNotes {after : Machine} (same : after.subscribers = machine.subscribers)
    {before : Timers} (inTune : after.toneOn = before.sounding) :
    notifications after.toneNotes = (toneEvents before after.core.timers).flatMap machine.telling := by
  unfold toneNotes toneEvents
  rw [inTune]
  split
  · rfl
  · rw [List.flatMap_singleton]
    exact notifications_notes same rfl

theorem notifications_elapsed {after : Machine} (same : after.subscribers = machine.subscribers)
    (inTune : after.toneOn = after.core.timers.sounding) :
    notifications after.elapsed.toneNotes =
      (toneEvents after.core.timers after.ticked.core.timers).flatMap machine.telling := by
  have listeners : after.elapsed.subscribers = machine.subscribers := same
  exact notifications_toneNotes listeners inTune

theorem stepEvents_of_halted (halted : machine.core.registers.halted = true) :
    machine.stepEvents = [] := by
  simp [stepEvents, halted]

theorem stepEvents_of_error (passive : machine.Passive) {failure : Failure}
    (failed : machine.step.result = .error failure) :
    machine.stepEvents = [.beforeCycle machine.core.registers.cycles] := by
  simp [stepEvents, failed, running_of_step_error passive failed]

theorem stepEvents_of_ok (passive : machine.Passive)
    (running : machine.core.registers.halted = false) (completed : machine.step.result = .ok ()) :
    ∃ listing, machine.step.state.lastInstruction = some listing ∧
      machine.stepEvents = .beforeCycle machine.core.registers.cycles ::
        (toneEvents machine.core.timers machine.step.state.core.timers ++
          [.executed listing, .afterCycle (machine.core.registers.cycles + 1)]) := by
  obtain ⟨op, instruction, _, _, last⟩ := step_lists passive running completed
  exact ⟨_, last, by simp [stepEvents, running, completed, last]⟩

theorem cycles_of_executed {op : Opcode} {instruction : Instruction} {core : Core}
    {failure : Option Failure}
    (executed : instruction.execute machine.dialect (machine.core.fetched op) = (core, failure)) :
    core.registers.cycles = machine.core.registers.cycles := by
  have around := instruction.execute_surroundings machine.dialect (machine.core.fetched op)
  rw [executed] at around
  exact (congrArg Surroundings.cycles around :)

theorem step_counts (passive : machine.Passive) :
    machine.step.state.core.registers.cycles =
      machine.core.registers.cycles + if machine.succeeds then 1 else 0 := by
  have cycle := step_cycle passive
  unfold succeeds
  generalize machine.step = outcome at cycle ⊢
  cases cycle with
  | idle halted => simp [halted]
  | unread | unknown => simp [withCore, Core.stopped]
  | failed running read known executed =>
      simp [withCore, cycles_of_executed executed]
  | done running read known executed =>
      simp [running, Core.counted, cycles_of_executed executed]

theorem notifications_completedNotes (inTune : machine.toneOn = machine.core.timers.sounding)
    (core : Core) (listing : Listing)
    (uncounted : core.registers.cycles = machine.core.registers.cycles) :
    notifications (machine.completedNotes core listing) =
      (.beforeCycle machine.core.registers.cycles ::
        (toneEvents machine.core.timers core.counted.timers ++
          [.executed listing, .afterCycle (machine.core.registers.cycles + 1)])).flatMap
        machine.telling := by
  have listeners : (machine.completed core listing).subscribers = machine.subscribers :=
    logged_subscribers _ listing
  have begun : notifications (machine.notes (.beforeCycle machine.core.registers.cycles)) = _ :=
    notifications_notes rfl rfl
  have tone : notifications (machine.withCore core.counted).toneNotes =
      (toneEvents machine.core.timers core.counted.timers).flatMap machine.telling :=
    notifications_toneNotes rfl inTune
  have executed : notifications ((machine.completed core listing).notes (.executed listing)) = _ :=
    notifications_notes listeners rfl
  have ended : notifications ((machine.completed core listing).notes
      (.afterCycle (machine.core.registers.cycles + 1))) = _ := notifications_notes listeners rfl
  rw [completedNotes, uncounted]
  simp [notifications_append, notifications_logNotes, begun, tone, executed, ended]

theorem step_told (passive : machine.Passive)
    (inTune : machine.toneOn = machine.core.timers.sounding) :
    notifications machine.step.effects = machine.stepEvents.flatMap machine.telling := by
  have cycle := step_cycle passive
  unfold stepEvents
  generalize machine.step = outcome at cycle ⊢
  cases cycle with
  | idle halted =>
      rw [if_pos halted]
      rfl
  | unread running | unknown running | failed running =>
      have begun : notifications (machine.notes (.beforeCycle machine.core.registers.cycles)) = _ :=
        notifications_notes rfl rfl
      simp [running, begun]
  | @done op instruction core running read known executed =>
      have notes := notifications_completedNotes inTune core
        (instruction.listing machine.core.registers.pc op) (cycles_of_executed executed)
      simp [running, notes]

theorem tallies_toneEvents (before after : Timers) (cycles : Nat) :
    Tallies cycles (toneEvents before after) cycles := by
  unfold toneEvents
  split <;> rfl

theorem tallies_stepEvents (passive : machine.Passive) :
    Tallies machine.core.registers.cycles machine.stepEvents
      machine.step.state.core.registers.cycles := by
  rw [step_counts passive, succeeds]
  cases halted : machine.core.registers.halted with
  | true => simp [stepEvents_of_halted halted, Tallies]
  | false =>
      cases result : machine.step.result with
      | error failure =>
          simp [stepEvents_of_error passive result, Tallies]
      | ok =>
          obtain ⟨listing, _, events⟩ := stepEvents_of_ok passive halted result
          rw [events]
          exact ⟨rfl, (tallies_toneEvents _ _ _).append ⟨rfl, rfl⟩⟩

/-- Subscribers were told of these events, and the numbers in them are right: so many more cycles were
completed. -/
structure Follows (machine : Machine) (outcome : Outcome Machine Unit) (events : List Event)
    (completed : Nat) : Prop where
  told : notifications outcome.effects = events.flatMap machine.telling
  tallies : Tallies machine.core.registers.cycles events outcome.state.core.registers.cycles
  counted : outcome.state.core.registers.cycles = machine.core.registers.cycles + completed

theorem step_follows (reached : machine.Reached) :
    machine.Follows machine.step machine.stepEvents (if machine.succeeds then 1 else 0) :=
  ⟨step_told reached.regular.passive reached.inTune, tallies_stepEvents reached.regular.passive,
    step_counts reached.regular.passive⟩

theorem Follows.append {first rest : Outcome Machine Unit} {events more : List Event}
    {completed others : Nat} (one : machine.Follows first events completed)
    (other : first.state.Follows rest more others)
    (same : first.state.subscribers = machine.subscribers) :
    machine.Follows { rest with effects := first.effects ++ rest.effects } (events ++ more)
      (completed + others) where
  told := by
    rw [notifications_append, one.told, other.told, telling_of_subscribers same,
      List.flatMap_append]
  tallies := one.tallies.append other.tallies
  counted := by rw [other.counted, one.counted, Nat.add_assoc]

theorem cycles_follow (reached : machine.Reached) (count : Nat) :
    machine.Follows (machine.cycles count) ((machine.starts count).flatMap stepEvents)
      ((machine.starts count).countP succeeds) := by
  -- What follows the first cycle is told to the same listeners, and counted from where it left off.
  induction count generalizing machine with
  | zero => exact ⟨rfl, rfl, rfl⟩
  | succ count ih =>
      have first := step_follows reached
      have later : machine.step.state.Follows _ _ _ := ih (reached.obey .step)
      have both := first.append later (step_subscribers reached.regular.passive)
      unfold cycles starts
      cases halted : machine.core.registers.halted with
      | true => exact ⟨rfl, rfl, rfl⟩
      | false =>
          rcases stepped : machine.step with ⟨failure | _, after, effects⟩
          · rw [stepped] at first
            simpa using first
          · rw [stepped] at both
            simpa [List.countP_cons, Nat.add_comm] using both

theorem frame_follows (reached : machine.Reached) :
    machine.Follows machine.frame (machine.announced .frame)
      ((machine.begins .frame).countP succeeds) := by
  have passive := reached.regular.passive
  have cycled := cycles_follow reached machine.frameCycles
  have listeners := cycles_subscribers passive machine.frameCycles
  have inTune := inTune_kept.cycles reached.regular reached.inTune machine.frameCycles
  unfold announced closing begins
  rcases frame_cases passive rfl with ⟨failure, failed, frame⟩ | ⟨_, frame⟩
  · rw [frame, failed]
    simpa using cycled
  · rw [frame]
    generalize machine.cycles machine.frameCycles = outcome at cycled listeners inTune
    have tone := notifications_elapsed listeners inTune
    have framed : outcome.state.ticked.framed.subscribers = machine.subscribers := listeners
    have shown : notifications (outcome.state.ticked.framed.notes
        (.frameComplete outcome.state.core.screen)) =
          machine.telling (.frameComplete outcome.state.ticked.framed.core.screen) :=
      notifications_notes framed rfl
    refine ⟨?_, cycled.tallies.append ((tallies_toneEvents _ _ _).append rfl), cycled.counted⟩
    rw [elapsed] at tone
    simp only [notifications_append, cycled.told, tone, shown, List.flatMap_append,
      List.flatMap_singleton]
    rfl

/-- Outside of cycles there is nothing to announce but the tone. -/
theorem obey_told_tone (reached : machine.Reached) {command : Command}
    (apart : command.executes = false) :
    notifications (machine.obey command).effects =
      (toneEvents machine.core.timers (machine.obey command).state.core.timers).flatMap
        machine.telling := by
  have regular := reached.regular
  have restarted : notifications machine.powerOn.toneNotes =
      (toneEvents machine.core.timers .stopped).flatMap machine.telling :=
    notifications_toneNotes rfl reached.inTune
  cases command with
  | step | frame => cases apart
  | load rom =>
      rw [obey, load_eq regular.passive rom.property, notifications_recorded, notifications_recorded,
        restarted]
      rfl
  | reset =>
      rw [obey, reset_eq regular.passive regular.accepted, notifications_recorded, restarted]
      rfl
  | tick =>
      rw [obey, tick_eq regular.passive]
      exact notifications_elapsed rfl reached.inTune
  | input key pressed =>
      obtain ⟨_, keypad, input⟩ := machine.input_leaves key pressed
      rw [obey, input]
      simp [toneEvents, withCore, notifications]
  | _ => simp [obey, toneEvents, notifications, halt, setRegisters, subscribe]

theorem step_obeyed (reached : machine.Reached) :
    machine.Follows (machine.obey .step) (machine.announced .step)
      ((machine.begins .step).countP succeeds) := by
  unfold announced closing begins
  simpa [obey, List.countP_cons] using step_follows reached

theorem obey_told (reached : machine.Reached) (command : Command) :
    notifications (machine.obey command).effects =
      (machine.announced command).flatMap machine.telling := by
  cases command with
  | step => exact (step_obeyed reached).told
  | frame => exact (frame_follows reached).told
  | _ => exact obey_told_tone reached rfl

theorem obey_follows (reached : machine.Reached) {command : Command}
    (onward : command.restarts = false) :
    machine.Follows (machine.obey command) (machine.announced command)
      ((machine.begins command).countP succeeds) := by
  have told := obey_told reached command
  cases command with
  | load | reset => cases onward
  | step => exact step_obeyed reached
  | frame => exact frame_follows reached
  | tick =>
      have same : (machine.obey .tick).state.core.registers.cycles =
          machine.core.registers.cycles := by
        rw [obey, tick_eq reached.regular.passive]
        rfl
      refine ⟨told, ?_, same⟩
      rw [same]
      exact tallies_toneEvents _ _ _
  | input key pressed =>
      obtain ⟨_, keypad, input⟩ := machine.input_leaves key pressed
      have same : (machine.obey (.input key pressed)).state.core.registers.cycles =
          machine.core.registers.cycles := by
        rw [obey, input]
        rfl
      refine ⟨told, ?_, same⟩
      rw [same]
      exact tallies_toneEvents _ _ _
  | _ => exact ⟨told, tallies_toneEvents _ _ _, rfl⟩

theorem run_counts (reached : machine.Reached)
    (onward : ∀ command ∈ commands, command.restarts = false) :
    Tallies machine.core.registers.cycles (machine.stream commands)
        (machine.run commands).core.registers.cycles ∧
      (machine.run commands).core.registers.cycles =
        machine.core.registers.cycles + machine.successes commands := by
  induction commands generalizing machine with
  | nil => exact ⟨rfl, rfl⟩
  | cons command rest ih =>
      have first := obey_follows reached (onward command (by simp))
      obtain ⟨tallies, counted⟩ := ih (reached.obey command) fun other member =>
        onward other (by simp [member])
      refine ⟨first.tallies.append tallies, ?_⟩
      rw [run, counted, first.counted, successes, Nat.add_assoc]

theorem run_told (reached : machine.Reached)
    (closed : ∀ command ∈ commands, command.subscribers = []) :
    notifications (machine.effects commands) =
      (machine.stream commands).flatMap machine.telling := by
  induction commands generalizing machine with
  | nil => rfl
  | cons command rest ih =>
      obtain ⟨closedFirst, closedRest⟩ := List.forall_mem_cons.mp closed
      have same := obey_subscribers reached.regular command
      rw [closedFirst, List.append_nil] at same
      have later := ih (reached.obey command) closedRest
      rw [telling_of_subscribers same] at later
      rw [effects, stream, notifications_append, obey_told reached, later, List.flatMap_append]

theorem run_subscribers (regular : machine.Regular) (commands : List Command) :
    (machine.run commands).subscribers =
      machine.subscribers ++ commands.flatMap Command.subscribers := by
  induction commands generalizing machine with
  | nil => simp [run]
  | cons command rest ih =>
      rw [run, ih (regular_kept.obey regular regular command), obey_subscribers regular]
      simp

theorem Reached.starts (reached : machine.Reached) (count : Nat) :
    ∀ before ∈ machine.starts count, before.Reached := by
  induction count generalizing machine with
  | zero => simp [Machine.starts]
  | succ count ih =>
      unfold Machine.starts
      split
      · simp
      · rw [List.forall_mem_cons]
        refine ⟨reached, ?_⟩
        split
        · simp
        · exact ih (reached.obey .step)

theorem Reached.begins (reached : machine.Reached) (command : Command) :
    ∀ before ∈ machine.begins command, before.Reached := by
  cases command with
  | step => simpa [Machine.begins] using reached
  | frame => exact reached.starts machine.frameCycles
  | _ => simp [Machine.begins]

/-- What a machine announces, whom it tells, and what each of its cycles has to announce. -/
structure Announces (machine : Machine) : Prop where
  /-- Everybody is told of an event before the next event comes. -/
  told : ∀ commands, (∀ command ∈ commands, command.subscribers = []) →
    notifications (machine.effects commands) = (machine.stream commands).flatMap machine.telling
  begins : ∀ command, ∀ before ∈ machine.begins command, before.Reached
  idle : machine.core.registers.halted = true → machine.stepEvents = []
  failed : ∀ failure, machine.step.result = .error failure →
    machine.stepEvents = [.beforeCycle machine.core.registers.cycles]
  completed : machine.core.registers.halted = false → machine.step.result = .ok () →
    ∃ listing, machine.step.state.lastInstruction = some listing ∧
      machine.stepEvents = .beforeCycle machine.core.registers.cycles ::
        (toneEvents machine.core.timers machine.step.state.core.timers ++
          [.executed listing, .afterCycle (machine.core.registers.cycles + 1)])

theorem Reached.announces (reached : machine.Reached) : machine.Announces where
  told _ closed := run_told reached closed
  begins := reached.begins
  idle := stepEvents_of_halted
  failed _ failed := stepEvents_of_error reached.regular.passive failed
  completed running completed := stepEvents_of_ok reached.regular.passive running completed

/-- The numbers in the events of a run count the cycles of the run that succeed. -/
structure Counts (machine : Machine) (commands : List Command) : Prop where
  cycles : (machine.run commands).core.registers.cycles = machine.successes commands
  tallies : Tallies 0 (machine.stream commands) (machine.successes commands)
  consecutive : (machine.stream commands).filterMap Event.completed? =
    List.range' 1 (machine.successes commands)

theorem Reached.counts (reached : machine.Reached)
    (fresh : machine.core.registers.cycles = 0)
    (onward : ∀ command ∈ commands, command.restarts = false) : machine.Counts commands := by
  obtain ⟨tallies, counted⟩ := run_counts reached onward
  rw [fresh, Nat.zero_add] at counted
  rw [fresh, counted] at tallies
  exact ⟨counted, tallies, tallies.consecutive.2⟩

theorem obey_restarts (regular : machine.Regular) {command : Command}
    (restarts : command.restarts = true) :
    (machine.obey command).state.core.registers.cycles = 0 := by
  cases command with
  | load rom =>
      rw [obey, load_eq regular.passive rom.property]
      rfl
  | reset =>
      rw [obey, reset_eq regular.passive regular.accepted]
      rfl
  | _ => cases restarts

/-- Whatever a run was, its machine tells those who listen, in the order in which they came, of all
that it announces. From the beginning or a restart on the events are numbered by the cycles that
succeed. -/
theorem run_announces (dialect : Dialect) (random : RandomSource) (cyclesPerFrame : Int) :
    (∀ history, ((create dialect random cyclesPerFrame).run history).Announces ∧
      ((create dialect random cyclesPerFrame).run history).subscribers =
        history.flatMap Command.subscribers) ∧
      ∀ before after, (∀ last ∈ before.getLast?, last.restarts = true) →
        (∀ command ∈ after, command.restarts = false) →
        ((create dialect random cyclesPerFrame).run before).Counts after := by
  have regular := create_regular dialect random cyclesPerFrame
  have reached (history : List Command) :
      ((create dialect random cyclesPerFrame).run history).Reached := ⟨_, _, _, _, rfl⟩
  constructor
  · intro history
    exact ⟨(reached history).announces, run_subscribers regular history⟩
  · intro before after fresh onward
    apply (reached before).counts _ onward
    rcases List.eq_nil_or_concat before with rfl | ⟨earlier, last, rfl⟩
    · rfl
    · rw [List.concat_eq_append, run_append]
      exact obey_restarts (regular.run earlier) (fresh last (by simp))

end Machine

end Chip8
