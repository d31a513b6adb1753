import Chip8.Proofs.Instruction.Reads
import Chip8.Proofs.Machine.Run

/-! # Machines that cannot be told apart

Two machines are alike if they differ in their random sources at most, and these supply the same
bytes from now on. Whatever is asked of both, they answer the same, make the same known and are alike
again. Subscribers may react here, and so each part of an operation is shown to respect likeness.
-/

namespace Chip8

/-- Outcomes with one result and the same effects, and related states. -/
structure Outcome.Related {σ α : Type} (R : σ → σ → Prop) (one other : Outcome σ α) : Prop where
  result : one.result = other.result
  effects : one.effects = other.effects
  state : R one.state other.state

namespace Operation

variable {σ α β : Type} {R : σ → σ → Prop}

/-- Work on related states has related outcomes. -/
def Respects (R : σ → σ → Prop) (work : Operation σ α) : Prop :=
  ∀ ⦃one other : σ⦄, R one other → (work one).Related R (work other)

theorem respects_pure (answer : α) : Respects R (pure answer) :=
  fun _ _ related => ⟨rfl, rfl, related⟩

theorem respects_fail (failure : Failure) : Respects R (fail failure : Operation σ α) :=
  fun _ _ related => ⟨rfl, rfl, related⟩

theorem respects_leave (effect : Effect) : Respects R (leave effect) :=
  fun _ _ related => ⟨rfl, rfl, related⟩

theorem Respects.bind {first : Operation σ α} {next : α → Operation σ β}
    (begun : Respects R first) (continued : ∀ answer, Respects R (next answer)) :
    Respects R (first >>= next) := by
  intro one other related
  have middle := begun related
  rcases work : first one with ⟨result, state, before⟩
  rcases otherWork : first other with ⟨otherResult, otherState, otherBefore⟩
  rw [work, otherWork] at middle
  obtain ⟨rfl, rfl, relatedStates⟩ := middle
  cases result with
  | error failure =>
      rw [bind_of_error work, bind_of_error otherWork]
      exact ⟨rfl, rfl, relatedStates⟩
  | ok answer =>
      have later := continued answer relatedStates
      rw [bind_of_ok work rfl, bind_of_ok otherWork rfl]
      exact ⟨later.result, congrArg (before ++ ·) later.effects, later.state⟩

end Operation

namespace RandomSource

/-- From now on both sources supply the same bytes. -/
def SameAhead (one other : RandomSource) : Prop :=
  ∀ k, one.bytes (one.drawn + k) = other.bytes (other.drawn + k)

variable {one other : RandomSource}

theorem SameAhead.byte (same : one.SameAhead other) : one.next.1 = other.next.1 := same 0

theorem SameAhead.next (same : one.SameAhead other) : one.next.2.SameAhead other.next.2 := by
  intro k
  have later := same (k + 1)
  rw [Nat.add_comm k 1, ← Nat.add_assoc, ← Nat.add_assoc] at later
  exact later

end RandomSource

def Core.supplied (core : Core) (random : RandomSource) : Core := { core with random := random }

/-- An instruction draws from a source what it would draw from another one that supplies the same,
and sees nothing else of it. -/
theorem Instruction.execute_supplied (instruction : Instruction) (dialect : Dialect) (core : Core)
    {random : RandomSource} (same : core.random.SameAhead random) :
    ∃ left, (instruction.execute dialect core).1.random.SameAhead left ∧
      instruction.execute dialect (core.supplied random) =
        ((instruction.execute dialect core).1.supplied left,
          (instruction.execute dialect core).2) := by
  have drawn := instruction.execute_random dialect core
  have timers : instruction.timersAfter (core.supplied random) =
      (instruction.execute dialect core).1.timers := by
    rw [execute_timers]
    cases instruction <;> rfl
  have keypad : core.keypad = (instruction.execute dialect core).1.keypad :=
    (congrArg Surroundings.keypad (instruction.execute_surroundings dialect core)).symm
  refine ⟨instruction.randomAfter (core.supplied random), ?_, ?_⟩
  · rw [drawn]
    cases instruction with
    | random x mask => exact same.next
    | _ => exact same
  · have work : instruction.execute dialect (core.amid random core.timers core.keypad) = _ :=
      instruction.execute_amid dialect same.byte.symm (fun _ => rfl) fun _ => rfl
    refine work.trans ?_
    change ((instruction.execute dialect core).1.amid _
      (instruction.timersAfter (core.supplied random)) core.keypad, _) = _
    rw [timers, keypad]
    rfl

def Machine.supplied (machine : Machine) (random : RandomSource) : Machine :=
  { machine with core := machine.core.supplied random }

def Machine.Alike (one other : Machine) : Prop :=
  ∃ random, one.core.random.SameAhead random ∧ other = one.supplied random

namespace Activity

variable (activity : Activity) (random : RandomSource)

def supplied : Activity := activity.onMachine (·.supplied random)

def Alike (one other : Activity) : Prop :=
  ∃ random, one.machine.core.random.SameAhead random ∧ other = one.supplied random

variable (generation : Nat) (registers : Registers)

theorem setRegistersOf_supplied :
    (activity.supplied random).setRegistersOf generation registers =
      (activity.setRegistersOf generation registers).supplied random := by
  unfold setRegistersOf supplied onMachine
  dsimp only
  split <;> rfl

theorem setRegistersOf_random :
    (activity.setRegistersOf generation registers).machine.core.random =
      activity.machine.core.random := by
  unfold setRegistersOf
  split <;> rfl

end Activity

namespace Action

open Operation Activity

variable {α : Type} {notify : Notifier}

theorem respects_of_blind {work : Action α}
    (same : ∀ activity random, work (activity.supplied random) =
      { work activity with state := (work activity).state.supplied random })
    (kept : ∀ activity, (work activity).state.machine.core.random = activity.machine.core.random) :
    Respects Activity.Alike work := by
  rintro one _ ⟨random, ahead, rfl⟩
  rw [same]
  refine ⟨rfl, rfl, random, ?_, rfl⟩
  rw [kept]
  exact ahead

theorem respects_modify {change : Activity → Activity}
    (same : ∀ activity random, change (activity.supplied random) = (change activity).supplied random)
    (kept : ∀ activity, (change activity).machine.core.random = activity.machine.core.random) :
    Respects Activity.Alike (modify change) :=
  respects_of_blind (fun activity random => by rw [modify_at, same]; rfl) kept

theorem respects_get {next : Activity → Action α}
    (same : ∀ activity random, next (activity.supplied random) = next activity)
    (each : ∀ activity, Respects Activity.Alike (next activity)) :
    Respects Activity.Alike (get >>= next) := by
  rintro one _ ⟨random, ahead, rfl⟩
  rw [bind_of_silent (get_at _), bind_of_silent (get_at _), same]
  exact each one ⟨random, ahead, rfl⟩

theorem syncSound_respects (informed : ∀ event, Respects Activity.Alike (notify event)) :
    Respects Activity.Alike (syncSound notify) := by
  refine respects_get (fun _ _ => rfl) fun activity => ?_
  dsimp only
  split
  · exact respects_pure _
  · exact Respects.bind (respects_modify (fun _ _ => rfl) fun _ => rfl) fun _ => informed _

theorem complete_respects (generation : Nat) (listing : Listing) :
    Respects Activity.Alike (complete generation listing) := by
  refine respects_modify (fun activity random => ?_) fun activity => ?_
  · dsimp only
    rw [setRegistersOf_supplied]
    rfl
  · exact activity.setRegistersOf_random _ _

theorem trace_respects (listing : Listing) : Respects Activity.Alike (trace listing) := by
  refine respects_get (fun _ _ => rfl) fun activity => ?_
  split
  · exact Respects.bind (respects_modify (fun _ _ => rfl) fun _ => rfl) fun _ => respects_leave _
  · exact respects_pure _

theorem execute_respects (generation : Nat) : Respects Activity.Alike (execute generation) := by
  rintro one _ ⟨random, ahead, rfl⟩
  have registers : (one.supplied random).registersOf generation = one.registersOf generation := rfl
  have memory : (one.supplied random).machine.core.memory = one.machine.core.memory := rfl
  have halting : (one.supplied random).machine.haltOnInvalid = one.machine.haltOnInvalid := rfl
  have aheadOf (registers : Registers) :
      (one.setRegistersOf generation registers).machine.core.random.SameAhead random := by
    rw [setRegistersOf_random]
    exact ahead
  cases read : one.machine.core.memory.readOpcode (one.registersOf generation).pc with
  | error fault =>
      simp only [execute, registers, memory, read]
      exact ⟨rfl, rfl, random, ahead, rfl⟩
  | ok op =>
      cases known : Instruction.decode? op with
      | none =>
          simp only [execute, registers, memory, halting, read, known, setRegistersOf_supplied]
          refine ⟨rfl, rfl, random, ?_⟩
          dsimp only
          split <;> exact ⟨aheadOf _, rfl⟩
      | some instruction =>
          simp only [execute, registers, memory, read, known, setRegistersOf_supplied]
          generalize begins : one.setRegistersOf generation _ = begun
          have begunAhead : begun.machine.core.random.SameAhead random := begins ▸ aheadOf _
          obtain ⟨left, leftAhead, executed⟩ :=
            instruction.execute_supplied begun.machine.dialect begun.machine.core begunAhead
          have work : instruction.execute (begun.supplied random).machine.dialect
              (begun.supplied random).machine.core = _ := executed
          rw [work]
          cases failure : (instruction.execute begun.machine.dialect begun.machine.core).2 with
          | none => exact ⟨rfl, rfl, left, leftAhead, rfl⟩
          | some failure => exact ⟨rfl, rfl, left, leftAhead, rfl⟩

theorem reload_respects : Respects Activity.Alike reload := by
  refine respects_of_blind (fun activity random => ?_) fun activity => ?_
  · have rom : (activity.supplied random).machine.rom = activity.machine.rom := rfl
    have memory : (activity.supplied random).machine.core.memory = activity.machine.core.memory := rfl
    simp only [reload, rom, memory]
    split
    · rfl
    · split <;> rfl
  · unfold reload
    split
    · rfl
    · split <;> rfl

theorem input_respects (key : Int) (pressed : Bool) :
    Respects Activity.Alike (input key pressed) := by
  refine respects_of_blind (fun activity random => ?_) fun activity => ?_
  · have keypad : (activity.supplied random).machine.core.keypad = activity.machine.core.keypad := rfl
    unfold input
    rw [keypad]
    split <;> rfl
  · unfold input
    split <;> rfl

/-! Whatever tells the subscribers about events, an operation respects likeness if that does. -/

section Informed

variable (informed : ∀ event, Respects Activity.Alike (notify event))

include informed

theorem step_respects : Respects Activity.Alike (step notify) := by
  refine respects_get (fun _ _ => rfl) fun activity => ?_
  dsimp only
  split
  · exact respects_pure _
  · refine (informed _).bind fun _ => (execute_respects _).bind fun listing => ?_
    refine (complete_respects _ listing).bind fun _ => (syncSound_respects informed).bind fun _ => ?_
    refine (trace_respects listing).bind fun _ => (informed _).bind fun _ => ?_
    exact respects_get (fun _ _ => rfl) fun _ => informed _

theorem tick_respects : Respects Activity.Alike (tick notify) :=
  Respects.bind (respects_modify (fun _ _ => rfl) fun _ => rfl) fun _ => syncSound_respects informed

theorem steps_respects (count : Nat) : Respects Activity.Alike (steps notify count) := by
  induction count with
  | zero => exact respects_pure _
  | succ count ih =>
      refine respects_get (fun _ _ => rfl) fun activity => ?_
      split
      · exact respects_pure _
      · exact (step_respects informed).bind fun _ => ih

theorem frame_respects : Respects Activity.Alike (frame notify) := by
  refine respects_get (fun _ _ => rfl) fun activity => ?_
  refine (steps_respects informed _).bind fun _ => (tick_respects informed).bind fun _ => ?_
  refine Respects.bind (respects_modify (fun _ _ => rfl) fun _ => rfl) fun _ => ?_
  exact respects_get (fun _ _ => rfl) fun _ => informed _

theorem reset_respects : Respects Activity.Alike (reset notify) := by
  refine Respects.bind (respects_modify (fun _ _ => rfl) fun _ => rfl) fun _ => ?_
  exact (syncSound_respects informed).bind fun _ => reload_respects.bind fun _ => respects_leave _

theorem load_respects (rom : Rom) : Respects Activity.Alike (load notify rom) := by
  refine Respects.bind (respects_modify (fun _ _ => rfl) fun _ => rfl) fun _ => ?_
  exact (reset_respects informed).bind fun _ => respects_leave _

theorem react_respects (reaction : Reaction) : Respects Activity.Alike (react notify reaction) := by
  cases reaction with
  | ignore => exact respects_pure _
  | halt => exact respects_modify (fun _ _ => rfl) fun _ => rfl
  | reset => exact reset_respects informed
  | tick => exact tick_respects informed
  | step => exact step_respects informed
  | input key pressed => exact input_respects key pressed
  | setDelay value => exact respects_modify (fun _ _ => rfl) fun _ => rfl
  | notCallable => exact respects_fail _

theorem tell_respects (event : Event) (subscriber : Subscriber) :
    Respects Activity.Alike (tell notify event subscriber) := by
  unfold tell
  split
  · exact respects_fail _
  · refine respects_get (fun _ _ => rfl) fun activity => ?_
    exact (respects_leave _).bind fun _ => react_respects informed _

theorem tellAll_respects (event : Event) (subscribers : List Subscriber) :
    Respects Activity.Alike (tellAll notify event subscribers) := by
  induction subscribers with
  | nil => exact respects_pure _
  | cons subscriber rest ih => exact (tell_respects informed event subscriber).bind fun _ => ih

end Informed

/-- By induction on how deep reactions may go: those to an event are one level less deep. -/
theorem notify_respects (depth : Nat) (event : Event) :
    Respects Activity.Alike (Action.notify depth event) := by
  induction depth generalizing event with
  | zero =>
      refine respects_get (fun _ _ => rfl) fun activity => ?_
      exact tellAll_respects (fun _ => respects_fail _) event _
  | succ depth ih =>
      refine respects_get (fun _ _ => rfl) fun activity => ?_
      exact tellAll_respects ih event _

end Action

namespace Machine

variable {one other : Machine}

theorem perform_alike {α : Type} (action : Notifier → Action α) (alike : one.Alike other)
    (respecting : (action (Action.notify nesting)).Respects Activity.Alike) :
    (one.perform action).Related Alike (other.perform action) := by
  obtain ⟨random, ahead, rfl⟩ := alike
  have work := @respecting ⟨one, []⟩ _ ⟨random, ahead, rfl⟩
  obtain ⟨left, leftAhead, state⟩ := work.state
  exact ⟨work.result, work.effects, left, leftAhead, congrArg Activity.machine state⟩

theorem obey_alike (alike : one.Alike other) (command : Command) :
    (one.obey command).Related Alike (other.obey command) := by
  have informed := Action.notify_respects nesting
  cases command with
  | load rom =>
      exact perform_alike (fun notify => Action.load notify rom.val) alike
        (Action.load_respects informed rom.val)
  | reset => exact perform_alike _ alike (Action.reset_respects informed)
  | input key pressed =>
      exact perform_alike (fun _ => Action.input key pressed) alike
        (Action.input_respects key pressed)
  | step => exact perform_alike _ alike (Action.step_respects informed)
  | tick => exact perform_alike _ alike (Action.tick_respects informed)
  | frame => exact perform_alike _ alike (Action.frame_respects informed)
  | _ =>
      obtain ⟨random, ahead, rfl⟩ := alike
      exact ⟨rfl, rfl, random, ahead, rfl⟩

theorem run_alike (alike : one.Alike other) (commands : List Command) :
    (one.run commands).Alike (other.run commands) := by
  induction commands generalizing one other with
  | nil => exact alike
  | cons command rest ih => exact ih (obey_alike alike command).state

end Machine

end Chip8
