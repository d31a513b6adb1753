import Chip8.Proofs.Machine.Tone

/-! # Rounds of calls

Those who wait for the tone are told of it one after another. Each may do something to the machine when
it is told, and so may those who wait for other events. If none but the last of the listeners has the
machine work on, then nobody is told of a further turn of the tone before all have been told of the
one before. What is called out is a row of full rounds then, and in each the opposite of the one
before. This holds however deep reactions go, by induction on the depth.
-/

namespace Chip8

open Operation

/-- Who was told of the tone, and what. -/
def Effect.toneCall? : Effect → Option (Int × Bool)
  | .notified label (.sound active) => some (label, active)
  | _ => none

def toneCalls (effects : List Effect) : List (Int × Bool) := effects.filterMap Effect.toneCall?

theorem toneCalls_append (first second : List Effect) :
    toneCalls (first ++ second) = toneCalls first ++ toneCalls second :=
  List.filterMap_append

theorem tones_eq (effects : List Effect) : tones effects = (toneCalls effects).map Prod.snd := by
  induction effects with
  | nil => rfl
  | cons effect rest ih =>
      cases effect with
      | recorded record => exact ih
      | notified label event =>
          cases event with
          | sound active => exact congrArg (active :: ·) ih
          | _ => exact ih

theorem Machine.toneCalls_notes {machine : Machine} {event : Event}
    (silent : ∀ active, event ≠ .sound active) : toneCalls (machine.notes event) = [] := by
  have nothing : tones (machine.notes event) = [] := tones_notes silent
  rw [tones_eq] at nothing
  exact List.map_eq_nil_iff.mp nothing

theorem Machine.toneCalls_logNotes (machine : Machine) (listing : Listing) :
    toneCalls (machine.logNotes listing) = [] := by
  unfold logNotes
  split <;> rfl

/-- All of these are told the same. -/
def callAll (subscribers : List Subscriber) (active : Bool) : List (Int × Bool) :=
  subscribers.map fun subscriber => (subscriber.label, active)

/-- What an event has these subscribers told of the tone. -/
def Event.calls (subscribers : List Subscriber) : Event → List (Int × Bool)
  | .sound active => callAll subscribers active
  | _ => []

theorem toneCalls_notified (event : Event) (screen : Screen) (subscriber : Subscriber) :
    toneCalls [.notified subscriber.label (event.seenWith screen)] = event.calls [subscriber] := by
  cases event <;> rfl

/-- Full rounds, in each of which the opposite of the one before is told. -/
def InRounds (listeners : List Subscriber) (before : Bool) (calls : List (Int × Bool))
    (after : Bool) : Prop :=
  ∃ values, Turns before values after ∧ calls = values.flatMap (callAll listeners)

namespace InRounds

variable {listeners : List Subscriber} {before middle after : Bool}
  {calls others : List (Int × Bool)}

theorem nil (value : Bool) : InRounds listeners value [] value := ⟨[], rfl, rfl⟩

theorem append (one : InRounds listeners before calls middle)
    (other : InRounds listeners middle others after) :
    InRounds listeners before (calls ++ others) after := by
  obtain ⟨first, turns, rfl⟩ := one
  obtain ⟨second, later, rfl⟩ := other
  exact ⟨first ++ second, turns.append later, List.flatMap_append.symm⟩

theorem cons {active : Bool} (turned : active = !before)
    (later : InRounds listeners active calls after) :
    InRounds listeners before (callAll listeners active ++ calls) after := by
  obtain ⟨values, turns, rfl⟩ := later
  exact ⟨active :: values, ⟨turned, turns⟩, rfl⟩

end InRounds

/-- Reactions in the course of which the tone may turn. -/
def Reaction.works : Reaction → Bool
  | .reset | .tick | .step => true
  | _ => false

/-- None but the last one has the machine work on. -/
def LastWorks (listeners : List Subscriber) : Prop :=
  ∀ listener ∈ listeners.dropLast, listener.reaction.works = false

instance (listeners : List Subscriber) : Decidable (LastWorks listeners) :=
  inferInstanceAs (Decidable (∀ listener ∈ listeners.dropLast, listener.reaction.works = false))

namespace Machine

def HeardBy (listeners : List Subscriber) (machine : Machine) : Prop :=
  machine.subscribersOf "sound" = listeners

/-- These wait for the tone, and were told last whether it sounds. -/
structure Attuned (listeners : List Subscriber) (machine : Machine) : Prop where
  heard : machine.HeardBy listeners
  inTune : machine.toneOn = machine.core.timers.sounding

variable {listeners : List Subscriber} {machine after : Machine}

theorem HeardBy.of_subscribers (heard : machine.HeardBy listeners)
    (same : after.subscribers = machine.subscribers) : after.HeardBy listeners := by
  rw [HeardBy, subscribersOf, same]
  exact heard

theorem Attuned.of_same (attuned : machine.Attuned listeners)
    (subscribers : after.subscribers = machine.subscribers) (toneOn : after.toneOn = machine.toneOn)
    (timers : after.core.timers = machine.core.timers) : after.Attuned listeners := by
  refine ⟨attuned.heard.of_subscribers subscribers, ?_⟩
  rw [toneOn, timers, attuned.inTune]

end Machine

/-- How work ends that calls out `told` and rounds after that. Work that succeeds leaves a machine of a
kind, and work that fails leaves one that was told last whether the tone sounds. -/
inductive Carried (listeners : List Subscriber) (told : List (Int × Bool)) (kind : Machine → Prop)
    (before : Machine) {α : Type} : Outcome Activity α → Prop
  | succeeded {answer : α} {after : Activity} {effects : List Effect} {rest : List (Int × Bool)}
      (holds : kind after.machine) (calls : toneCalls effects = told ++ rest)
      (rounds : InRounds listeners before.toneOn rest after.machine.toneOn) :
      Carried listeners told kind before ⟨.ok answer, after, effects⟩
  | failed {failure : Failure} {after : Activity} {effects : List Effect}
      (attuned : after.machine.Attuned listeners) :
      Carried listeners told kind before ⟨.error failure, after, effects⟩

theorem Carried.turned {α : Type} {listeners : List Subscriber} {kind : Machine → Prop}
    {before middle : Machine} {active : Bool} {outcome : Outcome Activity α}
    (turned : active = !before.toneOn) (now : middle.toneOn = active)
    (carried : Carried listeners (callAll listeners active) kind middle outcome) :
    Carried listeners [] kind before outcome := by
  cases carried with
  | failed attuned => exact .failed attuned
  | succeeded holds calls rounds =>
      rw [now] at rounds
      exact .succeeded holds calls (rounds.cons turned)

namespace Action

variable {α β : Type} {listeners : List Subscriber} {told : List (Int × Bool)}
  {P Q R : Machine → Prop}

def Carries (listeners : List Subscriber) (P : Machine → Prop) (told : List (Int × Bool))
    (Q : Machine → Prop) (work : Action α) : Prop :=
  ∀ ⦃activity : Activity⦄, P activity.machine →
    Carried listeners told Q activity.machine (work activity)

/-- Work for those who were told last whether the tone sounds, and know so again after it. -/
abbrev CallsOut (listeners : List Subscriber) (told : List (Int × Bool)) (work : Action α) : Prop :=
  Carries listeners (Machine.Attuned listeners) told (Machine.Attuned listeners) work

theorem carried_once {answer : α} {activity after : Activity} {effects : List Effect}
    (holds : Q after.machine) (calls : toneCalls effects = told)
    (same : after.machine.toneOn = activity.machine.toneOn) :
    Carried listeners told Q activity.machine ⟨.ok answer, after, effects⟩ :=
  .succeeded holds (calls.trans (List.append_nil _).symm) (same ▸ .nil _)

theorem carries_pure (answer : α) : Carries listeners P [] P (pure answer) :=
  fun _ holds => carried_once holds rfl rfl

theorem carries_get {next : Activity → Action α}
    (each : ∀ activity, P activity.machine →
      Carried listeners told Q activity.machine (next activity activity)) :
    Carries listeners P told Q (get >>= next) := by
  intro activity holds
  rw [bind_of_silent (get_at _)]
  exact each activity holds

theorem carries_modify {change : Activity → Activity}
    (same : ∀ activity, (change activity).machine.toneOn = activity.machine.toneOn)
    (holds : ∀ activity, P activity.machine → Q (change activity).machine) :
    Carries listeners P [] Q (modify change) :=
  fun activity before => carried_once (holds activity before) rfl (same activity)

theorem Carries.bind {first : Action α} {next : α → Action β}
    (begun : Carries listeners P told Q first)
    (continued : ∀ answer, Carries listeners Q [] R (next answer)) :
    Carries listeners P told R (first >>= next) := by
  intro activity holds
  have before := begun holds
  rcases work : first activity with ⟨result, middle, effects⟩
  rw [work] at before
  cases before with
  | failed attuned =>
      rw [bind_of_error work]
      exact .failed attuned
  | @succeeded answer _ _ rest between calls rounds =>
      have after := continued answer between
      rcases other : next answer middle with ⟨end_, final, more⟩
      rw [other] at after
      rw [bind_of_ok work other]
      cases after with
      | failed attuned => exact .failed attuned
      | @succeeded _ _ _ later reached calls' rounds' =>
          refine .succeeded reached ?_ (rounds.append rounds')
          rw [toneCalls_append, calls, calls', List.nil_append, List.append_assoc]

/-- Work goes on that has told some of them something, while the tone did not turn. -/
theorem carried_after {first : Action α} {next : α → Action β} {activity middle : Activity}
    {answer : α} {effects : List Effect} {later : List (Int × Bool)}
    (work : first activity = ⟨.ok answer, middle, effects⟩) (calls : toneCalls effects = told)
    (same : middle.machine.toneOn = activity.machine.toneOn)
    (continued : Carried listeners later Q middle.machine (next answer middle)) :
    Carried listeners (told ++ later) Q activity.machine ((first >>= next) activity) := by
  rcases other : next answer middle with ⟨result, final, more⟩
  rw [other] at continued
  rw [bind_of_ok work other]
  cases continued with
  | failed attuned => exact .failed attuned
  | succeeded holds told' rounds =>
      rw [same] at rounds
      refine .succeeded holds ?_ rounds
      rw [toneCalls_append, calls, told', List.append_assoc]

theorem carries_fail {failure : Failure}
    (attuned : ∀ machine, P machine → machine.Attuned listeners) :
    Carries listeners P told Q (fail failure : Action α) :=
  fun _ holds => .failed (attuned _ holds)

section

variable (activity : Activity) (generation : Nat) (registers : Registers)

theorem setRegistersOf_subscribers :
    (activity.setRegistersOf generation registers).machine.subscribers =
      activity.machine.subscribers := by
  unfold Activity.setRegistersOf
  split <;> rfl

theorem setRegistersOf_toneOn :
    (activity.setRegistersOf generation registers).machine.toneOn = activity.machine.toneOn := by
  unfold Activity.setRegistersOf
  split <;> rfl

theorem setRegistersOf_timers :
    (activity.setRegistersOf generation registers).machine.core.timers =
      activity.machine.core.timers := by
  unfold Activity.setRegistersOf
  split <;> rfl

end

/-- An instruction may set the sound timer, unless it fails. -/
theorem execute_carries (generation : Nat) :
    Carries listeners (Machine.Attuned listeners) [] (Machine.HeardBy listeners)
      (execute generation) := by
  intro activity attuned
  have kept (registers : Registers) :
      (activity.setRegistersOf generation registers).machine.Attuned listeners :=
    attuned.of_same (setRegistersOf_subscribers _ _ _) (setRegistersOf_toneOn _ _ _)
      (setRegistersOf_timers _ _ _)
  cases read : activity.machine.core.memory.readOpcode (activity.registersOf generation).pc with
  | error fault =>
      simp only [execute, read]
      exact .failed attuned
  | ok op =>
      cases known : Instruction.decode? op with
      | none =>
          simp only [execute, read, known]
          split <;> exact .failed (kept _)
      | some instruction =>
          simp only [execute, read, known]
          generalize begins : activity.setRegistersOf generation _ = begun
          have begunAttuned : begun.machine.Attuned listeners := begins ▸ kept _
          have sameTone : begun.machine.toneOn = activity.machine.toneOn :=
            begins ▸ setRegistersOf_toneOn _ _ _
          cases executed : instruction.execute begun.machine.dialect begun.machine.core with
          | mk core failure =>
              cases failure with
              | none => exact carried_once begunAttuned.heard rfl sameTone
              | some failure =>
                  exact .failed (begunAttuned.of_same rfl rfl (Instruction.timers_of_failed executed))

theorem complete_carries (generation : Nat) (listing : Listing) :
    Carries listeners (Machine.HeardBy listeners) [] (Machine.HeardBy listeners)
      (complete generation listing) := by
  apply carries_modify
  · intro activity
    exact setRegistersOf_toneOn _ _ _
  · intro activity heard
    exact heard.of_subscribers (setRegistersOf_subscribers _ _ _)

theorem trace_carries (listing : Listing) : CallsOut listeners [] (trace listing) := by
  intro activity attuned
  obtain ⟨machine, replaced⟩ := activity
  have logged := machine.logged_eq listing
  rw [trace_at]
  refine carried_once (attuned.of_same ?_ ?_ ?_) (machine.toneCalls_logNotes listing) ?_
  · exact (congrArg Machine.subscribers logged :)
  · exact (congrArg Machine.toneOn logged :)
  · exact (congrArg (·.core.timers) logged :)
  · exact (congrArg Machine.toneOn logged :)

theorem syncSound_carries {notify : Notifier}
    (carried : ∀ active, CallsOut listeners (callAll listeners active) (notify (.sound active))) :
    Carries listeners (Machine.HeardBy listeners) [] (Machine.Attuned listeners)
      (syncSound notify) := by
  apply carries_get
  intro activity heard
  by_cases upToDate : activity.machine.core.timers.sounding = activity.machine.toneOn
  · simp only [upToDate, if_true]
    exact carries_pure () ⟨heard, upToDate.symm⟩
  · simp only [upToDate, if_false]
    rw [bind_of_silent (modify_at _ _)]
    have now : (activity.machine.synced).Attuned listeners := ⟨heard, rfl⟩
    exact .turned (Bool.eq_not_of_ne upToDate) rfl (carried _ now)

theorem reload_carries : CallsOut listeners [] reload := by
  intro activity attuned
  unfold reload
  split
  · exact carried_once attuned rfl rfl
  · split
    · exact carried_once (attuned.of_same rfl rfl rfl) rfl rfl
    · exact .failed attuned

theorem record_carries (record : Journal.Record) : CallsOut listeners [] (leave (.recorded record)) :=
  fun _ attuned => carried_once attuned rfl rfl

theorem input_carries (key : Int) (pressed : Bool) : CallsOut listeners [] (input key pressed) := by
  intro activity attuned
  unfold input
  split
  · exact carried_once (attuned.of_same rfl rfl rfl) rfl rfl
  · exact .failed attuned

theorem react_idle (notify : Notifier) {reaction : Reaction} (idle : reaction.works = false)
    {activity : Activity} (attuned : activity.machine.Attuned listeners) :
    ∃ result after, react notify reaction activity = ⟨result, after, []⟩ ∧
      after.machine.Attuned listeners ∧ after.machine.toneOn = activity.machine.toneOn := by
  cases reaction with
  | ignore => exact ⟨_, _, rfl, attuned, rfl⟩
  | halt => exact ⟨_, _, rfl, ⟨attuned.heard, attuned.inTune⟩, rfl⟩
  | input key pressed =>
      cases taken : activity.machine.core.keypad.set key pressed with
      | ok keypad =>
          exact ⟨.ok (), activity.onMachine (fun machine =>
              { machine with core := { machine.core with keypad := keypad } }),
            by simp only [react, input, taken], ⟨attuned.heard, attuned.inTune⟩, rfl⟩
      | error failure =>
          exact ⟨.error failure, activity, by simp only [react, input, taken], attuned, rfl⟩
  | setDelay value => exact ⟨_, _, rfl, ⟨attuned.heard, attuned.inTune⟩, rfl⟩
  | notCallable => exact ⟨_, _, rfl, attuned, rfl⟩
  | _ => cases idle

theorem tell_callable (notify : Notifier) (event : Event) {subscriber : Subscriber}
    (callable : subscriber.reaction ≠ .notCallable) :
    tell notify event subscriber = get >>= fun activity =>
      leave (.notified subscriber.label (event.seenWith activity.machine.core.screen)) >>= fun _ =>
        react notify subscriber.reaction := by
  unfold tell
  split
  · rename_i refused
    exact absurd refused callable
  · rfl

theorem tell_idle (notify : Notifier) (event : Event) {subscriber : Subscriber}
    (idle : subscriber.reaction.works = false) {activity : Activity}
    (attuned : activity.machine.Attuned listeners) :
    ∃ result after effects, tell notify event subscriber activity = ⟨result, after, effects⟩ ∧
      after.machine.Attuned listeners ∧ after.machine.toneOn = activity.machine.toneOn ∧
      (result = .ok () → toneCalls effects = event.calls [subscriber]) := by
  by_cases refused : subscriber.reaction = .notCallable
  · have told : tell notify event subscriber activity =
        ⟨.error .notCallable, activity, []⟩ := by
      rw [tell, refused]
      rfl
    exact ⟨_, _, _, told, attuned, rfl, fun success => by cases success⟩
  · obtain ⟨result, after, reacted, afterAttuned, same⟩ := react_idle notify idle attuned
    rw [tell_callable notify event refused]
    exact ⟨result, after, _, (bind_of_silent (get_at _)).trans (bind_of_ok (leave_at _ _) reacted),
      afterAttuned, same, fun _ => toneCalls_notified event _ subscriber⟩

/-! Whatever tells the subscribers about events, an operation calls out in rounds if that does. -/

section Informed

variable {notify : Notifier}
  (informed : ∀ event, CallsOut listeners (event.calls listeners) (notify event))

include informed

theorem step_carries : CallsOut listeners [] (step notify) := by
  apply carries_get
  intro activity attuned
  cases halted : activity.machine.core.registers.halted with
  | true => exact carries_pure () attuned
  | false =>
      refine Carries.bind (informed (.beforeCycle _)) (fun _ => ?_) attuned
      refine (execute_carries _).bind fun listing => (complete_carries _ listing).bind fun _ => ?_
      refine (syncSound_carries fun active => informed (.sound active)).bind fun _ => ?_
      refine (trace_carries listing).bind fun _ => ?_
      refine Carries.bind (informed (.executed listing)) fun _ => ?_
      exact carries_get fun after holds => informed (.afterCycle _) holds

theorem tick_carries : CallsOut listeners [] (tick notify) := by
  refine Carries.bind (Q := Machine.HeardBy listeners) ?_ fun _ => ?_
  · exact carries_modify (fun _ => rfl) fun _ attuned => attuned.heard
  · exact syncSound_carries fun active => informed (.sound active)

theorem steps_carries (count : Nat) : CallsOut listeners [] (steps notify count) := by
  induction count with
  | zero => exact carries_pure ()
  | succ count ih =>
      apply carries_get
      intro activity attuned
      cases halted : activity.machine.core.registers.halted with
      | true => exact carries_pure () attuned
      | false => exact (step_carries informed).bind (fun _ => ih) attuned

theorem frame_carries : CallsOut listeners [] (frame notify) := by
  apply carries_get
  intro activity attuned
  refine (steps_carries informed _).bind (fun _ => (tick_carries informed).bind fun _ => ?_) attuned
  refine Carries.bind (Q := Machine.Attuned listeners) ?_ fun _ => ?_
  · exact carries_modify (fun _ => rfl) fun _ attuned => attuned.of_same rfl rfl rfl
  · exact carries_get fun after holds => informed (.frameComplete _) holds

theorem reset_carries : CallsOut listeners [] (reset notify) := by
  refine Carries.bind (Q := Machine.HeardBy listeners) ?_ fun _ => ?_
  · exact carries_modify (fun _ => rfl) fun _ attuned => attuned.heard
  · refine (syncSound_carries fun active => informed (.sound active)).bind fun _ => ?_
    exact reload_carries.bind fun _ => record_carries _

theorem load_carries (rom : Rom) : CallsOut listeners [] (load notify rom) := by
  refine Carries.bind (Q := Machine.Attuned listeners) ?_ fun _ => ?_
  · exact carries_modify (fun _ => rfl) fun _ attuned => attuned.of_same rfl rfl rfl
  · exact (reset_carries informed).bind fun _ => record_carries _

theorem react_carries (reaction : Reaction) : CallsOut listeners [] (react notify reaction) := by
  cases reaction with
  | ignore => exact carries_pure ()
  | reset => exact reset_carries informed
  | tick => exact tick_carries informed
  | step => exact step_carries informed
  | input key pressed => exact input_carries key pressed
  | notCallable => exact carries_fail fun _ attuned => attuned
  | _ => exact carries_modify (fun _ => rfl) fun _ attuned => ⟨attuned.heard, attuned.inTune⟩

theorem tell_carries (event : Event) (subscriber : Subscriber) :
    CallsOut listeners (event.calls [subscriber]) (tell notify event subscriber) := by
  by_cases refused : subscriber.reaction = .notCallable
  · intro activity attuned
    rw [tell, refused]
    exact .failed attuned
  · rw [tell_callable notify event refused]
    apply carries_get
    intro activity attuned
    refine Carries.bind (P := Machine.Attuned listeners) ?_
      (fun _ => react_carries informed _) attuned
    intro before holds
    exact carried_once holds (toneCalls_notified event _ subscriber) rfl

theorem tellAll_carries {event : Event} (silent : ∀ active, event ≠ .sound active)
    (row : List Subscriber) :
    CallsOut listeners [] (tellAll notify event row) := by
  have nothing (subscriber : Subscriber) : event.calls [subscriber] = [] := by
    cases event with
    | sound active => exact absurd rfl (silent active)
    | _ => rfl
  induction row with
  | nil => exact carries_pure ()
  | cons subscriber rest ih =>
      have first := tell_carries informed event subscriber
      rw [nothing subscriber] at first
      exact first.bind fun _ => ih

/-- Those in a row are all told before the tone turns. -/
theorem tellAll_sound_carries (active : Bool) {row : List Subscriber} (last : LastWorks row) :
    CallsOut listeners (callAll row active) (tellAll notify (.sound active) row) := by
  induction row with
  | nil => exact carries_pure ()
  | cons subscriber rest ih =>
      cases rest with
      | nil => exact (tell_carries informed (.sound active) subscriber).bind fun _ => carries_pure ()
      | cons next others =>
          have idle := last subscriber (by simp)
          have later := ih fun listener member => last listener (by simp_all)
          intro activity attuned
          obtain ⟨result, after, effects, told, afterAttuned, same, calls⟩ :=
            tell_idle notify (.sound active) idle attuned
          change Carried _ _ _ _ ((tell notify (.sound active) subscriber >>= fun _ =>
            tellAll notify (.sound active) (next :: others)) activity)
          cases result with
          | error failure =>
              rw [bind_of_error told]
              exact .failed afterAttuned
          | ok answer =>
              exact carried_after told (calls rfl) same (later afterAttuned)

theorem tellWaiting_carries (last : LastWorks listeners) (event : Event) {activity : Activity}
    (attuned : activity.machine.Attuned listeners) :
    Carried listeners (event.calls listeners) (Machine.Attuned listeners) activity.machine
      (tellAll notify event (activity.machine.subscribersOf event.name) activity) := by
  cases event with
  | sound active =>
      have heard : activity.machine.subscribersOf (Event.sound active).name = listeners :=
        attuned.heard
      rw [heard]
      exact tellAll_sound_carries informed active last attuned
  | _ => exact tellAll_carries informed (fun _ same => by cases same) _ attuned

end Informed

/-- By induction on how deep reactions may go: those to an event are one level less deep. -/
theorem notify_carries (last : LastWorks listeners) (depth : Nat) (event : Event) :
    CallsOut listeners (event.calls listeners) (Action.notify depth event) := by
  induction depth generalizing event with
  | zero =>
      apply carries_get
      intro activity attuned
      exact tellWaiting_carries (fun _ => carries_fail fun _ attuned => attuned) last event attuned
  | succ depth ih =>
      apply carries_get
      intro activity attuned
      exact tellWaiting_carries ih last event attuned

end Action

end Chip8
