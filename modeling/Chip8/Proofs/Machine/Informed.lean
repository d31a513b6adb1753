import Chip8.Proofs.Machine.Overtaking

namespace Chip8

open Operation

/-- What a listener was told, out of all that was called out. -/
def callsTo (label : Int) (calls : List (Int × Bool)) : List Bool :=
  (calls.filter fun call => call.1 == label).map Prod.snd

def heard (label : Int) (effects : List Effect) : List Bool := callsTo label (toneCalls effects)

theorem callsTo_append (label : Int) (first second : List (Int × Bool)) :
    callsTo label (first ++ second) = callsTo label first ++ callsTo label second := by
  simp [callsTo]

theorem heard_append (label : Int) (first second : List Effect) :
    heard label (first ++ second) = heard label first ++ heard label second := by
  rw [heard, toneCalls_append, callsTo_append]
  rfl

section

variable {listeners : List Subscriber} {listener : Subscriber} {before after : Bool}

theorem callsTo_cons (other : Subscriber) (rest : List Subscriber) (active : Bool) (label : Int) :
    callsTo label (callAll (other :: rest) active) =
      if other.label = label then active :: callsTo label (callAll rest active)
      else callsTo label (callAll rest active) := by
  simp only [callsTo, callAll, List.map_cons, List.filter_cons, beq_iff_eq]
  split <;> rfl

theorem callsTo_others (active : Bool) {label : Int}
    (absent : label ∉ listeners.map Subscriber.label) :
    callsTo label (callAll listeners active) = [] := by
  induction listeners with
  | nil => rfl
  | cons other rest ih =>
      rw [List.map_cons, List.mem_cons, not_or] at absent
      rw [callsTo_cons, if_neg fun same => absent.1 same.symm, ih absent.2]

theorem callsTo_callAll (distinct : (listeners.map Subscriber.label).Nodup)
    (member : listener ∈ listeners) (active : Bool) :
    callsTo listener.label (callAll listeners active) = [active] := by
  induction listeners with
  | nil => cases member
  | cons other rest ih =>
      rw [List.map_cons, List.nodup_cons] at distinct
      rcases List.mem_cons.mp member with same | behind
      · rw [callsTo_cons, same, if_pos rfl, callsTo_others active distinct.1]
      · have apart : other.label ≠ listener.label := by
          intro same
          exact distinct.1 (same ▸ List.mem_map_of_mem behind)
        rw [callsTo_cons, if_neg apart, ih distinct.2 behind]

theorem InRounds.heard {calls : List (Int × Bool)} (rounds : InRounds listeners before calls after)
    (distinct : (listeners.map Subscriber.label).Nodup) (member : listener ∈ listeners) :
    Turns before (callsTo listener.label calls) after := by
  obtain ⟨values, turns, rfl⟩ := rounds
  have each : callsTo listener.label (values.flatMap (callAll listeners)) = values := by
    induction values generalizing before with
    | nil => rfl
    | cons value rest ih =>
        rw [List.flatMap_cons, callsTo_append, callsTo_callAll distinct member, ih turns.2]
        rfl
  rw [each]
  exact turns

theorem Turns.getLastD {past values : List Bool} {first : Bool}
    (turns : Turns (past.getLastD first) values after) : (past ++ values).getLastD first = after := by
  induction values generalizing past with
  | nil =>
      rw [List.append_nil]
      exact turns
  | cons value rest ih =>
      have now : (past ++ [value]).getLastD first = value := by simp
      have later := ih (now.symm ▸ turns.2)
      rwa [List.append_assoc] at later

end

namespace Machine

variable {listeners : List Subscriber} {machine : Machine}

/-- How an operation ends for those who wait for the tone. -/
structure Informs (listeners : List Subscriber) (machine : Machine)
    (outcome : Outcome Machine Unit) : Prop where
  attuned : outcome.state.Attuned listeners
  rounds : outcome.result = .ok () →
    InRounds listeners machine.toneOn (toneCalls outcome.effects) outcome.state.toneOn

theorem perform_informs (action : Notifier → Action Unit)
    (work : Action.CallsOut listeners [] (action (Action.notify nesting)))
    (attuned : machine.Attuned listeners) : machine.Informs listeners (machine.perform action) := by
  have carried : Carried listeners [] (Machine.Attuned listeners) machine
      (action (Action.notify nesting) ⟨machine, []⟩) := @work ⟨machine, []⟩ attuned
  rw [perform]
  generalize action (Action.notify nesting) ⟨machine, []⟩ = outcome at carried
  cases carried with
  | failed attuned => exact ⟨attuned, fun success => by cases success⟩
  | succeeded holds calls rounds => exact ⟨holds, fun _ => calls ▸ rounds⟩

theorem subscribe_heardBy (heardBy : machine.HeardBy listeners) {subscriber : Subscriber}
    (other : subscriber.event ≠ "sound") : (machine.subscribe subscriber).HeardBy listeners := by
  have none : [subscriber].filter (fun subscriber => subscriber.event == "sound") = [] := by
    simp [other]
  rw [HeardBy, subscribersOf, subscribe, List.filter_append, none, List.append_nil]
  exact heardBy

theorem obey_informs (last : LastWorks listeners) (attuned : machine.Attuned listeners)
    {command : Command} (unshared : ∀ label, command ≠ .listen "sound" label) :
    machine.Informs listeners (machine.obey command) := by
  have informed := Action.notify_carries last nesting
  cases command with
  | load rom =>
      exact perform_informs (fun notify => Action.load notify rom.val)
        (Action.load_carries informed rom.val) attuned
  | reset => exact perform_informs Action.reset (Action.reset_carries informed) attuned
  | input key pressed =>
      exact perform_informs (fun _ => Action.input key pressed)
        (Action.input_carries key pressed) attuned
  | step => exact perform_informs Action.step (Action.step_carries informed) attuned
  | tick => exact perform_informs Action.tick (Action.tick_carries informed) attuned
  | frame => exact perform_informs Action.frame (Action.frame_carries informed) attuned
  | listen event label =>
      have other : event ≠ "sound" := by
        intro same
        exact unshared label (same ▸ rfl)
      exact ⟨⟨subscribe_heardBy attuned.heard other, attuned.inTune⟩, fun _ => .nil _⟩
  | _ => exact ⟨⟨attuned.heard, attuned.inTune⟩, fun _ => .nil _⟩

/-- A machine that these listen to from the beginning, and what has been seen of it since then. Others
may subscribe at any time. -/
inductive History (listeners : List Subscriber) : Machine → List Effect → Prop
  | begun (dialect : Dialect) (random : RandomSource) (cyclesPerFrame : Int)
      (subscribers : List Subscriber)
      (waiting : subscribers.filter (fun subscriber => subscriber.event == "sound") = listeners) :
      History listeners { create dialect random cyclesPerFrame with subscribers := subscribers } []
  | obeyed {machine : Machine} {past : List Effect} (history : History listeners machine past)
      (command : Command) (unshared : ∀ label, command ≠ .listen "sound" label) :
      History listeners (machine.obey command).state (past ++ (machine.obey command).effects)
  | joined {machine : Machine} {past : List Effect} (history : History listeners machine past)
      (subscriber : Subscriber) (other : subscriber.event ≠ "sound") :
      History listeners (machine.subscribe subscriber) past

theorem History.attuned {past : List Effect} (history : History listeners machine past)
    (last : LastWorks listeners) : machine.Attuned listeners := by
  induction history with
  | begun dialect random cyclesPerFrame subscribers waiting => exact ⟨waiting, rfl⟩
  | obeyed history command unshared ih => exact (obey_informs last ih unshared).attuned
  | joined history subscriber other ih => exact ⟨subscribe_heardBy ih.heard other, ih.inTune⟩

theorem History.run {past : List Effect} (history : History listeners machine past)
    {commands : List Command}
    (unshared : ∀ command ∈ commands, ∀ label, command ≠ .listen "sound" label) :
    History listeners (machine.run commands) (past ++ machine.effects commands) := by
  induction commands generalizing machine past with
  | nil => exact (List.append_nil past).symm ▸ history
  | cons command rest ih =>
      have first := history.obeyed command (unshared command (by simp))
      have later := ih first fun other member => unshared other (by simp [member])
      rwa [List.append_assoc] at later

/-- A listener knows whether the tone sounds, and was told of each turn once since it knew before. -/
structure EndsInformed (listener : Subscriber) (past : List Effect) (machine : Machine)
    (outcome : Outcome Machine Unit) : Prop where
  last : (heard listener.label (past ++ outcome.effects)).getLastD false =
    outcome.state.core.timers.sounding
  turns : Turns machine.core.timers.sounding (heard listener.label outcome.effects)
    outcome.state.core.timers.sounding

theorem listeners_informed {past : List Effect} (history : History listeners machine past)
    (distinct : (listeners.map Subscriber.label).Nodup) (lastWorks : LastWorks listeners)
    (upToDate : ∀ listener ∈ listeners,
      (heard listener.label past).getLastD false = machine.core.timers.sounding)
    {command : Command} (unshared : ∀ label, command ≠ .listen "sound" label)
    (succeeds : (machine.obey command).result = .ok ()) :
    ∀ listener ∈ listeners, EndsInformed listener past machine (machine.obey command) := by
  intro listener member
  have attuned := history.attuned lastWorks
  have informs := obey_informs lastWorks attuned unshared
  have turns := (informs.rounds succeeds).heard distinct member
  rw [attuned.inTune, informs.attuned.inTune] at turns
  refine ⟨?_, turns⟩
  rw [← upToDate listener member] at turns
  rw [heard_append]
  exact turns.getLastD

def watchedBy (subscribers : List Subscriber) : Machine :=
  { create .standard ⟨fun _ => 0, 0⟩ 10 with subscribers := subscribers }

theorem watchedBy_history (waiting : ∀ listener ∈ listeners, listener.event = "sound") :
    History listeners ((watchedBy listeners).run leadIn)
      ((watchedBy listeners).effects leadIn) := by
  have all : listeners.filter (fun subscriber => subscriber.event == "sound") = listeners := by
    rw [List.filter_eq_self]
    intro listener member
    rw [waiting listener member]
    rfl
  have begun : History listeners (watchedBy listeners) [] := .begun _ _ _ listeners all
  refine begun.run ?_
  intro command member label same
  rw [same] at member
  simp [leadIn] at member

theorem Chirped.upToDate {front back : List Subscriber} {label : Int}
    (chirped : Chirped front label back machine) (other : Int) :
    (heard other (machine.effects leadIn)).getLastD false =
      (machine.run leadIn).core.timers.sounding := by
  rw [heard, chirped.before, chirped.silent]
  rfl

/-- The last of two lets time pass when it is told of the tone. -/
def patient : List Subscriber := [⟨"sound", 0, .ignore⟩, ⟨"sound", 1, .tick⟩]

theorem patient_chirped : Chirped [⟨"sound", 0, .ignore⟩] 1 [] (watchedBy patient) :=
  chirped rfl (by decide) (by decide) (by decide) rfl

theorem patient_informed :
    History patient ((watchedBy patient).run leadIn)
        ((watchedBy patient).effects leadIn) ∧
      (patient.map Subscriber.label).Nodup ∧ LastWorks patient ∧
      (∀ listener ∈ patient,
        (heard listener.label ((watchedBy patient).effects leadIn)).getLastD false =
          ((watchedBy patient).run leadIn).core.timers.sounding) ∧
      (((watchedBy patient).run leadIn).obey .step).result = .ok () ∧
      ∀ listener ∈ patient, EndsInformed listener
        ((watchedBy patient).effects leadIn)
        ((watchedBy patient).run leadIn)
        (((watchedBy patient).run leadIn).obey .step) := by
  have history : History patient _ _ := watchedBy_history (by decide)
  have upToDate (listener : Subscriber) (_ : listener ∈ patient) :=
    patient_chirped.upToDate listener.label
  exact ⟨history, by decide, by decide, upToDate, patient_chirped.succeeds,
    listeners_informed history (by decide) (by decide) upToDate (by simp) patient_chirped.succeeds⟩

/-- The first of two lets time pass when it is told of the tone. -/
def hasty : List Subscriber := [⟨"sound", 0, .tick⟩, ⟨"sound", 1, .ignore⟩]

theorem hasty_chirped : Chirped [] 0 [⟨"sound", 1, .ignore⟩] (watchedBy hasty) :=
  chirped rfl (by decide) (by decide) (by decide) rfl

/-- The second one is told last that the tone is on, when it is off. -/
theorem hasty_overtaken :
    History hasty ((watchedBy hasty).run leadIn)
        ((watchedBy hasty).effects leadIn) ∧
      (∀ listener ∈ hasty,
        (heard listener.label ((watchedBy hasty).effects leadIn)).getLastD false =
          ((watchedBy hasty).run leadIn).core.timers.sounding) ∧
      (((watchedBy hasty).run leadIn).obey .step).result = .ok () ∧
      (((watchedBy hasty).run leadIn).obey .step).state.core.timers.sounding = false ∧
      heard 0 (((watchedBy hasty).run leadIn).obey .step).effects = [true, false] ∧
      heard 1 (((watchedBy hasty).run leadIn).obey .step).effects = [false, true] := by
  refine ⟨watchedBy_history (by decide), fun listener _ => hasty_chirped.upToDate listener.label,
    hasty_chirped.succeeds, hasty_chirped.ended, ?_, ?_⟩
  · rw [heard, hasty_chirped.told]
    decide
  · rw [heard, hasty_chirped.told]
    decide

end Machine

end Chip8
