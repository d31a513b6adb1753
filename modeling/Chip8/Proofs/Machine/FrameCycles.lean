import Chip8.Proofs.Machine.Program

/-! # Frames and their cycles

A frame ends its cycles early when the machine is halted. A cycle of a halted machine does nothing,
and so a frame is its cycles one after another, each of them asked for whether or not the machine is
halted by then, with a tick behind them. Subscribers may halt the machine at any event here:
`Supervised.frameInCycles`.
-/

namespace Chip8

open Operation

namespace Operation

variable {σ α β : Type} {P : σ → Prop}

def Keeps (P : σ → Prop) (work : Operation σ α) : Prop :=
  ∀ ⦃state : σ⦄, P state → P (work state).state

theorem keeps_pure (answer : α) : Keeps P (pure answer) := fun _ holds => holds

theorem keeps_get : Keeps P get := fun _ holds => holds

theorem Keeps.bind {first : Operation σ α} {next : α → Operation σ β} (begun : Keeps P first)
    (continued : ∀ answer, Keeps P (next answer)) : Keeps P (first >>= next) := by
  intro state holds
  have middle := begun holds
  rcases work : first state with ⟨_ | answer, after, effects⟩
  · rw [bind_of_error work]
    rwa [work] at middle
  · rw [bind_of_ok work rfl]
    rw [work] at middle
    exact continued answer middle

end Operation

/-- Whether the timers are ticked by a command that succeeds. -/
def Command.ticks : Command → Bool
  | .tick | .frame => true
  | _ => false

theorem Timers.toNat_countDown (value : UInt8) : (countDown value).toNat = value.toNat - 1 := by
  unfold countDown
  split
  · rename_i zero
    rw [zero]
    rfl
  · rename_i positive
    have one : (1 : UInt8) ≤ value := by
      rw [UInt8.le_iff_toNat_le]
      exact Nat.pos_of_ne_zero fun zero => positive (UInt8.toNat_inj.mp zero)
    rw [UInt8.toNat_sub_of_le _ _ one]
    rfl

/-- No registers were replaced, and the subscribers and the number of frames are those of a machine. -/
structure Activity.Undisturbed (machine : Machine) (activity : Activity) : Prop where
  replaced : activity.replaced = []
  subscribers : activity.machine.subscribers = machine.subscribers
  frameCount : activity.machine.frameCount = machine.frameCount

namespace Machine

variable (machine : Machine)

theorem attended_undisturbed (event : Event) :
    Activity.Undisturbed machine ⟨machine.attended event, []⟩ := by
  unfold attended
  rw [haltedBy_eq]
  exact ⟨rfl, rfl, rfl⟩

theorem informed_undisturbed : Activity.Undisturbed machine ⟨machine.informed, []⟩ := by
  unfold informed
  split
  · exact ⟨rfl, rfl, rfl⟩
  · have told := attended_undisturbed machine.synced (.sound machine.core.timers.sounding)
    exact ⟨told.replaced, told.subscribers, told.frameCount⟩

end Machine

namespace Action

open Activity

variable {machine : Machine}

theorem setRegistersOf_undisturbed {activity : Activity} (same : activity.Undisturbed machine)
    (generation : Nat) (registers : Registers) :
    (activity.setRegistersOf generation registers).Undisturbed machine := by
  obtain ⟨replaced, subscribers, frameCount⟩ := same
  have latest : ¬generation < activity.replaced.length := by simp [replaced]
  rw [setRegistersOf, if_neg latest]
  exact ⟨replaced, subscribers, frameCount⟩

theorem execute_keeps (generation : Nat) : Keeps (Undisturbed machine) (execute generation) := by
  intro activity same
  have begun := setRegistersOf_undisturbed same generation
  unfold execute
  dsimp only
  split
  · exact same
  · split
    · split
      · exact begun _
      · exact begun _
    · obtain ⟨replaced, subscribers, frameCount⟩ := begun _
      split <;> exact ⟨replaced, subscribers, frameCount⟩

theorem complete_keeps (generation : Nat) (listing : Listing) :
    Keeps (Undisturbed machine) (complete generation listing) := by
  intro activity same
  obtain ⟨replaced, subscribers, frameCount⟩ := setRegistersOf_undisturbed same generation _
  exact ⟨replaced, subscribers, frameCount⟩

theorem trace_keeps (listing : Listing) : Keeps (Undisturbed machine) (trace listing) := by
  refine Keeps.bind keeps_get fun before => ?_
  split
  · refine Keeps.bind ?_ fun _ => fun _ same => same
    exact fun _ same => ⟨same.replaced, same.subscribers, same.frameCount⟩
  · exact keeps_pure _

section Supervised

variable (supervised : machine.Supervised)

include supervised

theorem notify_keeps (depth : Nat) (event : Event) :
    Keeps (Undisturbed machine) (Action.notify depth event) := by
  intro activity same
  have told := activity.machine.attended_undisturbed event
  rw [notify_supervised activity (supervised.of_subscribers same.subscribers)]
  exact ⟨same.replaced, told.subscribers.trans same.subscribers,
    told.frameCount.trans same.frameCount⟩

theorem syncSound_keeps (depth : Nat) :
    Keeps (Undisturbed machine) (syncSound (Action.notify depth)) := by
  intro activity same
  have told := activity.machine.informed_undisturbed
  rw [syncSound_supervised activity (supervised.of_subscribers same.subscribers)]
  exact ⟨same.replaced, told.subscribers.trans same.subscribers,
    told.frameCount.trans same.frameCount⟩

theorem step_keeps (depth : Nat) :
    Keeps (Undisturbed machine) (Action.step (Action.notify depth)) := by
  refine Keeps.bind keeps_get fun before => ?_
  dsimp only
  split
  · exact keeps_pure _
  · refine (notify_keeps supervised depth _).bind fun _ => (execute_keeps _).bind fun listing => ?_
    refine (complete_keeps _ listing).bind fun _ => (syncSound_keeps supervised depth).bind fun _ => ?_
    refine (trace_keeps listing).bind fun _ => (notify_keeps supervised depth _).bind fun _ => ?_
    exact keeps_get.bind fun _ => notify_keeps supervised depth _

end Supervised

theorem step_halted (halted : machine.core.registers.halted = true) (notify : Notifier) :
    Action.step notify ⟨machine, []⟩ = ⟨.ok (), ⟨machine, []⟩, []⟩ := by
  refine (bind_of_silent (get_at _)).trans ?_
  simp only [halted, if_true]
  rfl

theorem steps_halted (halted : machine.core.registers.halted = true) (notify : Notifier)
    (count : Nat) : Action.steps notify count ⟨machine, []⟩ = ⟨.ok (), ⟨machine, []⟩, []⟩ := by
  cases count with
  | zero => rfl
  | succ count =>
      refine (bind_of_silent (get_at _)).trans ?_
      simp only [halted, if_true]
      rfl

theorem steps_succ (machine : Machine) (notify : Notifier) (count : Nat) :
    Action.steps notify (count + 1) ⟨machine, []⟩ =
      (Action.step notify >>= fun _ => Action.steps notify count) ⟨machine, []⟩ := by
  cases halted : machine.core.registers.halted with
  | true =>
      -- The frame ends here, but the cycles it leaves out would do nothing.
      rw [steps_halted halted, bind_of_silent (step_halted halted notify), steps_halted halted]
  | false =>
      refine (bind_of_silent (get_at _)).trans ?_
      simp only [halted]
      rfl

end Action

namespace Machine

variable {machine : Machine}

theorem step_undisturbed (supervised : machine.Supervised) :
    Activity.Undisturbed machine ⟨machine.step.state, []⟩ := by
  have kept := Action.step_keeps supervised nesting
    (⟨rfl, rfl, rfl⟩ : Activity.Undisturbed machine ⟨machine, []⟩)
  exact ⟨rfl, kept.subscribers, kept.frameCount⟩

theorem step_atWork (supervised : machine.Supervised) :
    Action.step (Action.notify nesting) ⟨machine, []⟩ = machine.step.atWork := by
  have kept := Action.step_keeps supervised nesting
    (⟨rfl, rfl, rfl⟩ : Activity.Undisturbed machine ⟨machine, []⟩)
  rcases work : Action.step (Action.notify nesting) ⟨machine, []⟩ with
    ⟨result, ⟨after, replaced⟩, effects⟩
  rw [work] at kept
  obtain rfl : replaced = [] := kept.replaced
  have same : machine.step = ⟨result, after, effects⟩ := perform_of Action.step work
  rw [same]
  rfl

theorem step_supervised (supervised : machine.Supervised) : machine.step.state.Supervised :=
  supervised.of_subscribers (step_undisturbed supervised).subscribers

def asked (count : Nat) : List Command := .replicate count .step

def Completes (machine : Machine) (count : Nat) : Prop :=
  ∀ outcome ∈ machine.outcomes (asked count), outcome.result = .ok ()

theorem completes_succ {count : Nat} :
    machine.Completes (count + 1) ↔
      machine.step.result = .ok () ∧ machine.step.state.Completes count := by
  unfold Completes asked
  rw [List.replicate_succ, outcomes, List.forall_mem_cons]
  rfl

theorem run_undisturbed (supervised : machine.Supervised) (count : Nat) :
    Activity.Undisturbed machine ⟨machine.run (asked count), []⟩ := by
  induction count generalizing machine with
  | zero => exact ⟨rfl, rfl, rfl⟩
  | succ count ih =>
      have first := step_undisturbed supervised
      have later := ih (step_supervised supervised)
      exact ⟨rfl, later.subscribers.trans first.subscribers, later.frameCount.trans first.frameCount⟩

theorem steps_of_completes (supervised : machine.Supervised) {count : Nat}
    (completes : machine.Completes count) :
    Action.steps (Action.notify nesting) count ⟨machine, []⟩ =
      ⟨.ok (), ⟨machine.run (asked count), []⟩, machine.effects (asked count)⟩ := by
  induction count generalizing machine with
  | zero => rfl
  | succ count ih =>
      obtain ⟨done, later⟩ := completes_succ.mp completes
      have first := step_atWork supervised
      have rest := ih (step_supervised supervised) later
      rw [Outcome.atWork, done] at first
      rw [Action.steps_succ]
      exact bind_of_ok first rest

theorem steps_of_error (supervised : machine.Supervised) {count k : Nat} {failure : Failure}
    (before : k < count) (completes : machine.Completes k)
    (failed : (machine.run (asked k)).step.result = .error failure) :
    Action.steps (Action.notify nesting) count ⟨machine, []⟩ =
      ⟨.error failure, ⟨machine.run (asked (k + 1)), []⟩, machine.effects (asked (k + 1))⟩ := by
  -- On the cycles before the one that fails. Whatever cycles are behind that one, none is reached.
  induction k generalizing machine count with
  | zero =>
      obtain ⟨count, rfl⟩ := Nat.exists_eq_add_of_lt before
      have first := step_atWork supervised
      have stopped : machine.step.result = .error failure := failed
      rw [Outcome.atWork, stopped] at first
      rw [Nat.zero_add, Action.steps_succ, bind_of_error first]
      exact congrArg (Outcome.mk _ _) (List.append_nil _).symm
  | succ k ih =>
      obtain ⟨rest, rfl⟩ : ∃ rest, count = rest + 1 := ⟨count - 1, by omega⟩
      obtain ⟨done, later⟩ := completes_succ.mp completes
      have first := step_atWork supervised
      have earlier : k < rest := by omega
      have others := ih (step_supervised supervised) earlier later failed
      rw [Outcome.atWork, done] at first
      rw [Action.steps_succ]
      exact bind_of_ok first others

theorem tick_of_supervised (supervised : machine.Supervised) :
    machine.tick = ⟨.ok (), machine.elapsed.informed, machine.elapsed.toneNotes⟩ :=
  perform_of Action.tick (Action.tick_supervised supervised)

theorem frame_of_steps (supervised : machine.Supervised) {after : Machine} {effects : List Effect}
    (same : after.subscribers = machine.subscribers)
    (cycled : Action.steps (Action.notify nesting) machine.frameCycles ⟨machine, []⟩ =
      ⟨.ok (), ⟨after, []⟩, effects⟩) :
    machine.frame =
      ⟨.ok (), after.tick.state.framed.attended (.frameComplete after.tick.state.core.screen),
        effects ++ (after.tick.effects ++
          after.tick.state.framed.notes (.frameComplete after.tick.state.core.screen))⟩ := by
  have afterSupervised := supervised.of_subscribers same
  have tickedSupervised : after.tick.state.framed.Supervised := by
    rw [tick_of_supervised afterSupervised]
    exact afterSupervised.of_subscribers after.elapsed.informed_undisturbed.subscribers
  have ticked : Action.tick (Action.notify nesting) ⟨after, []⟩ = after.tick.atWork := by
    rw [tick_of_supervised afterSupervised]
    exact Action.tick_supervised afterSupervised
  have succeeded : after.tick.result = .ok () := by rw [tick_of_supervised afterSupervised]
  rw [Outcome.atWork, succeeded] at ticked
  have framed : Action.frame (Action.notify nesting) ⟨machine, []⟩ =
      ⟨.ok (), ⟨after.tick.state.framed.attended (.frameComplete after.tick.state.core.screen), []⟩,
        effects ++ (after.tick.effects ++
          after.tick.state.framed.notes (.frameComplete after.tick.state.core.screen))⟩ := by
    refine (bind_of_silent (get_at _)).trans (bind_of_ok cycled (bind_of_ok ticked ?_))
    refine (bind_of_silent (modify_at _ _)).trans ((bind_of_silent (get_at _)).trans ?_)
    exact Action.notify_supervised ⟨after.tick.state.framed, []⟩ tickedSupervised _ _
  exact perform_of Action.frame framed

theorem frame_of_step_error (supervised : machine.Supervised) {k : Nat} {failure : Failure}
    (before : k < machine.frameCycles) (completes : machine.Completes k)
    (failed : (machine.run (asked k)).step.result = .error failure) :
    machine.frame =
      ⟨.error failure, machine.run (asked (k + 1)), machine.effects (asked (k + 1))⟩ := by
  have framed : Action.frame (Action.notify nesting) ⟨machine, []⟩ = _ :=
    (bind_of_silent (get_at _)).trans
      (bind_of_error (steps_of_error supervised before completes failed))
  exact perform_of Action.frame framed

/-- All that a program can see of itself is as it was, and the timers have been ticked so often. -/
structure StandsStill (machine after : Machine) (ticks : Nat) : Prop where
  registers : after.core.registers = machine.core.registers
  memory : after.core.memory = machine.core.memory
  stack : after.core.stack = machine.core.stack
  screen : after.core.screen = machine.core.screen
  random : after.core.random = machine.core.random
  lastInstruction : after.lastInstruction = machine.lastInstruction
  traceLog : after.traceLog = machine.traceLog
  delay : after.core.timers.delay.toNat = machine.core.timers.delay.toNat - ticks
  sound : after.core.timers.sound.toNat = machine.core.timers.sound.toNat - ticks

theorem StandsStill.trans {middle after : Machine} {first second : Nat}
    (one : machine.StandsStill middle first) (other : middle.StandsStill after second) :
    machine.StandsStill after (first + second) where
  registers := other.registers.trans one.registers
  memory := other.memory.trans one.memory
  stack := other.stack.trans one.stack
  screen := other.screen.trans one.screen
  random := other.random.trans one.random
  lastInstruction := other.lastInstruction.trans one.lastInstruction
  traceLog := other.traceLog.trans one.traceLog
  delay := by rw [other.delay, one.delay, Nat.sub_sub]
  sound := by rw [other.sound, one.sound, Nat.sub_sub]

theorem effects_append (machine : Machine) (first second : List Command) :
    machine.effects (first ++ second) =
      machine.effects first ++ (machine.run first).effects second := by
  induction first generalizing machine with
  | nil => rfl
  | cons command rest ih =>
      change _ ++ Machine.effects _ (rest ++ second) = (_ ++ _) ++ _
      rw [ih, List.append_assoc]
      rfl

end Machine

end Chip8
