import Chip8.Machine.Cycle

namespace Chip8

open Operation

def Subscriber.halts (subscriber : Subscriber) : Bool := subscriber.reaction == .halt

namespace Machine

/-- Subscribers take note, and may halt the machine. -/
def Supervised (machine : Machine) : Prop :=
  ∀ subscriber ∈ machine.subscribers, subscriber.reaction = .ignore ∨ subscriber.reaction = .halt

theorem Supervised.of_subscribers {machine after : Machine} (supervised : machine.Supervised)
    (same : after.subscribers = machine.subscribers) : after.Supervised := by
  unfold Supervised
  rw [same]
  exact supervised

/-- No subscriber does anything but take note. -/
def Passive (machine : Machine) : Prop :=
  ∀ subscriber ∈ machine.subscribers, subscriber.reaction = .ignore

theorem Passive.of_subscribers {machine after : Machine} (passive : machine.Passive)
    (same : after.subscribers = machine.subscribers) : after.Passive := by
  unfold Passive
  rw [same]
  exact passive

/-- Those who wait for the events of a name do nothing but take note. -/
def Ignored (machine : Machine) (name : String) : Prop :=
  ∀ subscriber ∈ machine.subscribersOf name, subscriber.reaction = .ignore

theorem Ignored.of_subscribers {machine after : Machine} {name : String}
    (ignored : machine.Ignored name) (same : after.subscribers = machine.subscribers) :
    after.Ignored name := by
  rw [Ignored, subscribersOf, same]
  exact ignored

theorem Passive.ignored {machine : Machine} (passive : machine.Passive) (name : String) :
    machine.Ignored name :=
  fun subscriber member => passive subscriber (List.mem_filter.mp member).1

variable (machine : Machine)

def notes (event : Event) : List Effect :=
  (machine.subscribersOf event.name).map fun subscriber =>
    .notified subscriber.label (event.seenWith machine.core.screen)

/-- The note of what subscribers were told last about the tone is brought up to date. -/
def synced : Machine := { machine with toneOn := machine.core.timers.sounding }

/-- What subscribers are told about the tone if it has to change. -/
def toneNotes : List Effect :=
  if machine.core.timers.sounding = machine.toneOn then []
  else machine.notes (.sound machine.core.timers.sounding)

def haltedBy (subscribers : List Subscriber) : Machine :=
  if subscribers.any Subscriber.halts then machine.halt else machine

theorem haltedBy_eq (subscribers : List Subscriber) :
    machine.haltedBy subscribers =
      machine.setRegisters (machine.haltedBy subscribers).core.registers := by
  unfold haltedBy
  split <;> rfl

@[simp] theorem haltedBy_screen (subscribers : List Subscriber) :
    (machine.haltedBy subscribers).core.screen = machine.core.screen :=
  (congrArg (fun after => after.core.screen) (machine.haltedBy_eq subscribers) :)

/-- A machine that was halted by one subscriber is not changed by the others. -/
theorem haltedBy_cons (subscriber : Subscriber) (rest : List Subscriber) :
    machine.haltedBy (subscriber :: rest) = (machine.haltedBy [subscriber]).haltedBy rest := by
  cases one : subscriber.halts <;> cases others : rest.any Subscriber.halts <;>
    simp only [haltedBy, List.any_cons, List.any_nil, one, others] <;> rfl

/-- The machine when all who wait for an event have been told. -/
def attended (event : Event) : Machine := machine.haltedBy (machine.subscribersOf event.name)

/-- The machine when subscribers have been told of the tone, if it had to change. -/
def informed : Machine :=
  if machine.core.timers.sounding = machine.toneOn then machine
  else machine.synced.attended (.sound machine.core.timers.sounding)

variable {machine}

theorem Passive.supervised (passive : machine.Passive) : machine.Supervised :=
  fun subscriber member => .inl (passive subscriber member)

theorem attended_of_ignored {event : Event} (ignored : machine.Ignored event.name) :
    machine.attended event = machine := by
  have quiet : ¬((machine.subscribersOf event.name).any Subscriber.halts = true) := by
    rw [List.any_eq_true]
    rintro ⟨subscriber, member, halting⟩
    simp [Subscriber.halts, ignored subscriber member] at halting
  exact if_neg quiet

theorem Passive.attended (passive : machine.Passive) (event : Event) :
    machine.attended event = machine :=
  attended_of_ignored (passive.ignored _)

theorem informed_of_attended
    (unmoved : ∀ active, machine.synced.attended (.sound active) = machine.synced) :
    machine.informed = machine.synced := by
  unfold informed
  split
  · rename_i upToDate
    simp only [synced, upToDate]
  · exact unmoved _

theorem informed_of_ignored (ignored : machine.Ignored "sound") : machine.informed = machine.synced := by
  have syncedIgnored : machine.synced.Ignored "sound" := ignored
  exact informed_of_attended fun _ => attended_of_ignored syncedIgnored

theorem Passive.informed (passive : machine.Passive) : machine.informed = machine.synced :=
  informed_of_ignored (passive.ignored _)

theorem perform_of {α : Type} (action : Notifier → Action α) {machine : Machine}
    {result : Except Failure α} {activity : Activity} {effects : List Effect}
    (work : action (Action.notify nesting) ⟨machine, []⟩ = ⟨result, activity, effects⟩) :
    machine.perform action = ⟨result, activity.machine, effects⟩ := by
  simp only [perform, work]

end Machine

/-- The outcome of an operation that replaces no registers, as the outcome of a piece of work. -/
def Outcome.atWork {α : Type} (outcome : Outcome Machine α) : Outcome Activity α :=
  ⟨outcome.result, ⟨outcome.state, []⟩, outcome.effects⟩

namespace Action

variable {notify : Notifier} {event : Event}

theorem tell_supervised {subscriber : Subscriber} (activity : Activity)
    (modest : subscriber.reaction = .ignore ∨ subscriber.reaction = .halt) :
    tell notify event subscriber activity =
      ⟨.ok (), activity.onMachine (·.haltedBy [subscriber]),
        [.notified subscriber.label (event.seenWith activity.machine.core.screen)]⟩ := by
  obtain ignoring | halting := modest <;>
    simp only [tell, Machine.haltedBy, Subscriber.halts, List.any_cons, List.any_nil, *] <;> rfl

theorem tellAll_supervised {subscribers : List Subscriber} (activity : Activity)
    (modest : ∀ subscriber ∈ subscribers,
      subscriber.reaction = .ignore ∨ subscriber.reaction = .halt) :
    tellAll notify event subscribers activity =
      ⟨.ok (), activity.onMachine (·.haltedBy subscribers), subscribers.map fun subscriber =>
        .notified subscriber.label (event.seenWith activity.machine.core.screen)⟩ := by
  induction subscribers generalizing activity with
  | nil => rfl
  | cons subscriber rest ih =>
      have first : tell notify event subscriber activity = _ :=
        tell_supervised activity (modest subscriber (by simp))
      have later := ih (activity.onMachine (·.haltedBy [subscriber]))
        fun other member => modest other (by simp [member])
      have told : tellAll notify event (subscriber :: rest) activity = _ := bind_of_ok first later
      rw [told]
      simp only [Activity.onMachine, Machine.haltedBy_screen, ← Machine.haltedBy_cons]
      rfl

theorem tellAll_ignoring (notify : Notifier) (event : Event) {subscribers : List Subscriber}
    (activity : Activity) (ignoring : ∀ subscriber ∈ subscribers, subscriber.reaction = .ignore) :
    tellAll notify event subscribers activity =
      ⟨.ok (), activity, subscribers.map fun subscriber =>
        .notified subscriber.label (event.seenWith activity.machine.core.screen)⟩ := by
  induction subscribers with
  | nil => rfl
  | cons subscriber rest ih =>
      have first : tell notify event subscriber activity = ⟨.ok (), activity,
          [.notified subscriber.label (event.seenWith activity.machine.core.screen)]⟩ := by
        rw [tell, ignoring subscriber (by simp)]
        rfl
      exact bind_of_ok first (ih fun other member => ignoring other (by simp [member]))

theorem tellAll_append (notify : Notifier) (event : Event) (first second : List Subscriber) :
    tellAll notify event (first ++ second) =
      tellAll notify event first >>= fun _ => tellAll notify event second := by
  induction first with
  | nil =>
      change _ = (pure () >>= fun _ => tellAll notify event second : Action Unit)
      rw [Operation.pure_bind]
      rfl
  | cons subscriber rest ih =>
      rw [List.cons_append, tellAll, ih, tellAll, Operation.bind_assoc]

/-- However deep reactions may go, those who only take note or halt the machine are told without fail,
and the machine is as they leave it. -/
theorem notify_modest (activity : Activity) (depth : Nat)
    (modest : ∀ subscriber ∈ activity.machine.subscribersOf event.name,
      subscriber.reaction = .ignore ∨ subscriber.reaction = .halt) :
    Action.notify depth event activity =
      ⟨.ok (), activity.onMachine (·.attended event), activity.machine.notes event⟩ := by
  cases depth <;> exact tellAll_supervised activity modest

theorem syncSound_modest (activity : Activity) (depth : Nat)
    (modest : ∀ subscriber ∈ activity.machine.subscribersOf "sound",
      subscriber.reaction = .ignore ∨ subscriber.reaction = .halt) :
    syncSound (Action.notify depth) activity =
      ⟨.ok (), ⟨activity.machine.informed, activity.replaced⟩, activity.machine.toneNotes⟩ := by
  obtain ⟨machine, replaced⟩ := activity
  refine (bind_of_silent (get_at _)).trans ?_
  by_cases upToDate : machine.core.timers.sounding = machine.toneOn
  · simp only [upToDate, if_true, Machine.informed, Machine.toneNotes]
    rfl
  · simp only [upToDate, if_false, Machine.informed, Machine.toneNotes]
    exact (bind_of_silent (modify_at _ _)).trans (notify_modest ⟨machine.synced, replaced⟩ depth modest)

theorem notify_supervised (activity : Activity) (supervised : activity.machine.Supervised)
    (depth : Nat) (event : Event) :
    Action.notify depth event activity =
      ⟨.ok (), activity.onMachine (·.attended event), activity.machine.notes event⟩ :=
  notify_modest activity depth fun subscriber member => supervised subscriber (List.mem_filter.mp member).1

theorem syncSound_supervised (activity : Activity) (supervised : activity.machine.Supervised)
    (depth : Nat) :
    syncSound (Action.notify depth) activity =
      ⟨.ok (), ⟨activity.machine.informed, activity.replaced⟩, activity.machine.toneNotes⟩ :=
  syncSound_modest activity depth fun subscriber member =>
    supervised subscriber (List.mem_filter.mp member).1

theorem notify_ignored (activity : Activity) (depth : Nat)
    (ignored : activity.machine.Ignored event.name) :
    Action.notify depth event activity = ⟨.ok (), activity, activity.machine.notes event⟩ := by
  rw [notify_modest activity depth fun subscriber member => .inl (ignored subscriber member),
    Activity.onMachine, Machine.attended_of_ignored ignored]

theorem syncSound_ignored (activity : Activity) (depth : Nat)
    (ignored : activity.machine.Ignored "sound") :
    syncSound (Action.notify depth) activity =
      ⟨.ok (), ⟨activity.machine.synced, activity.replaced⟩, activity.machine.toneNotes⟩ := by
  rw [syncSound_modest activity depth fun subscriber member => .inl (ignored subscriber member),
    Machine.informed_of_ignored ignored]

theorem notify_passive (activity : Activity) (passive : activity.machine.Passive) (depth : Nat)
    (event : Event) :
    Action.notify depth event activity = ⟨.ok (), activity, activity.machine.notes event⟩ :=
  notify_ignored activity depth (passive.ignored _)

theorem syncSound_passive (activity : Activity) (passive : activity.machine.Passive) (depth : Nat) :
    syncSound (Action.notify depth) activity =
      ⟨.ok (), ⟨activity.machine.synced, activity.replaced⟩, activity.machine.toneNotes⟩ :=
  syncSound_ignored activity depth (passive.ignored _)

end Action

end Chip8
