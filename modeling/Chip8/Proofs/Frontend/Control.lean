import Chip8.Proofs.Frontend.Start
import Chip8.Proofs.Machine.Observation

namespace Chip8.Frontend

namespace Session

variable {host : Host} {start now : Session}

/-- An event puts a key of the keypad down or up, and does nothing else. -/
def TurnsKey (now : Session) (event : HostEvent) (index : Fin 16) (pressed : Bool) : Prop :=
  ∃ keypad, (now.handle event).1 = { now with machine := now.machine.withKeypad keypad } ∧
    ∀ other, keypad.isPressed other =
      if other = index then pressed else now.machine.core.keypad.isPressed other

structure Heeds (host : Host) (now : Session) : Prop where
  /-- All that is asked of the machine succeeds, and it is about keys of the keypad and resets. -/
  asked : ∀ event,
    (now.handle event).1.machine = now.machine.run (request now.keymap event).toList ∧
      ∀ command ∈ request now.keymap event, (now.machine.obey command).result = .ok () ∧
        (command = .reset ∨
          ∃ (key : Int) (pressed : Bool), command = .input key pressed ∧ 0 ≤ key ∧ key < 16)
  quit : now.handle .quit = ({ now with running := false }, [])
  escape : now.handle (.keyDown .escape) = ({ now with running := false }, [])
  pause : (now.handle (.keyDown .pause)).1 = { now with paused := !now.paused }
  reset : (now.handle (.keyDown .reset)).1 = now.obeying [.reset]
  /-- The table of the state is printed, and can be made. -/
  state : now.handle (.keyDown .state) = (now, [.print (.table now.machine.stateTable)]) ∧
    now.machine.askTable = .ok now.machine.stateTable
  released : ∀ key ∈ controlKeys, now.handle (.keyUp key) = (now, [])
  /-- Keys of the keyboard are keys of the keypad, whether the session is paused and whether the
  machine is halted or not. -/
  keys : ∀ binding ∈ host.preferences.keyboard, ∀ key, host.key? binding.name = some key →
    now.TurnsKey (.keyDown key) binding.index true ∧
      now.TurnsKey (.keyUp key) binding.index false

theorem turnsKey_of_take {event : HostEvent} {index : Fin 16} {pressed : Bool}
    (taken : (now.handle event).1 = (now.take (now.machine.input index.val pressed)).1) :
    now.TurnsKey event index pressed := by
  have input : now.machine.input index.val pressed = _ := now.machine.obey_index index pressed
  rw [input] at taken
  exact ⟨_, taken, fun other => Keypad.isPressed_turned _ index other pressed⟩

theorem turnsKey_of_bound {key : HostKey} {index : Fin 16}
    (bound : now.keymap.lookup key = some index) :
    now.TurnsKey (.keyDown key) index true ∧ now.TurnsKey (.keyUp key) index false := by
  constructor <;> refine turnsKey_of_take ?_ <;> simp only [handle, bound]

theorem request_result (regular : now.machine.Regular) {event : HostEvent} {command : Command}
    (asked : request now.keymap event = some command) :
    (now.machine.obey command).result = .ok () ∧
      (command = .reset ∨
        ∃ (key : Int) (pressed : Bool), command = .input key pressed ∧ 0 ≤ key ∧ key < 16) := by
  obtain ⟨index, pressed, rfl⟩ | ⟨_, rfl⟩ := request_cases asked
  · have bound := index.isLt
    rw [Machine.obey_index]
    exact ⟨rfl, .inr ⟨index.val, pressed, rfl, by omega, by omega⟩⟩
  · rw [Machine.obey, Machine.reset_eq regular.passive regular.accepted]
    exact ⟨rfl, .inl rfl⟩

theorem InCourse.heeds (course : start.InCourse now) (named : host.KeysNamed)
    (keymap : start.keymap = hostKeymap host host.preferences) (free : start.Free) :
    now.Heeds host := by
  have unbound (key : HostKey) (control : key ∈ controlKeys) : now.keymap.lookup key = none := by
    rw [course.keymap]
    exact free key control
  have escape := unbound .escape (by simp [controlKeys])
  have pause := unbound .pause (by simp [controlKeys])
  have reset := unbound .reset (by simp [controlKeys])
  have state := unbound .state (by simp [controlKeys])
  exact {
    asked := by
      intro event
      rw [handle_eq]
      exact ⟨rfl, fun command asked => request_result course.reached.regular asked⟩
    quit := rfl
    escape := by simp only [handle, escape, control, if_true]
    pause := by
      have controlled := now.control_eq .pause
      have apart : (HostKey.pause == HostKey.escape) = false := by decide
      have noReset : HostKey.pause ≠ HostKey.reset := by decide
      rw [if_neg noReset, told_nil, apart] at controlled
      simp only [handle, pause, controlled, beq_self_eq_true, Bool.xor_true, Bool.not_false,
        Bool.and_true]
    reset := by
      have controlled := now.control_eq .reset
      simp only [handle, reset, controlled]
      exact now.told_obeying [.reset]
    state := by
      refine ⟨?_, Machine.askTable_eq _⟩
      simp only [handle, state, control]
      rfl
    released := by
      intro key control
      simp only [handle, unbound key control]
    keys := by
      intro binding bound key found
      have listed : now.keymap.lookup key = some binding.index := by
        rw [course.keymap, keymap]
        exact named.lookup_hostKeymap.mpr ⟨binding, bound, found, rfl⟩
      exact turnsKey_of_bound listed }

structure Advances (now : Session) : Prop where
  idle : (now.paused = true ∨ now.machine.core.registers.halted = true) → now.advance.1 = now
  frame : now.paused = false → now.machine.core.registers.halted = false →
    (now.machine.frame.result = .ok () ∧ now.advance.1.machine = now.machine.frame.state) ∨
      ∃ stopped, now.machine.frame.result = .error (.trap stopped) ∧
        now.advance.1.machine = now.machine.frame.state.halt
  keypad : now.advance.1.machine.core.keypad = now.machine.core.keypad

theorem InCourse.advances (course : start.InCourse now) : now.Advances where
  idle := advance_of_idle
  frame := advance_of_busy course.reached
  keypad := by
    have framed := (Machine.frame_sameSetup course.reached.regular.passive).2
    by_cases idle : now.paused = true ∨ now.machine.core.registers.halted = true
    · rw [advance_of_idle idle]
    · simp only [not_or, Bool.not_eq_true] at idle
      obtain ⟨_, advanced⟩ | ⟨_, _, advanced⟩ :=
        advance_of_busy course.reached idle.1 idle.2 <;> rw [advanced] <;> exact framed

theorem reset_machine (course : start.InCourse now) (powered : start.machine.restarted = start.machine) :
    (now.obeying [.reset]).machine = start.machine.supplied now.machine.core.random := by
  have regular := course.reached.regular
  have reset : (now.obeying [.reset]).machine = now.machine.reset.state := rfl
  rw [reset, Machine.reset_eq regular.passive regular.accepted]
  exact course.setup.restarted.trans (by rw [powered])

end Session

def Ending (events : List HostEvent) : Prop :=
  .quit ∈ events ∨ .keyDown .escape ∈ events

theorem Session.Free.any_ends_iff {session : Session} (free : session.Free)
    {events : List HostEvent} :
    events.any (HostEvent.ends session.keymap) = true ↔ Ending events := by
  have escape := free .escape (by simp [controlKeys])
  unfold Ending
  rw [List.any_eq_true]
  constructor
  · rintro ⟨event, member, ends⟩
    cases event with
    | quit => exact .inl member
    | keyDown key =>
        simp only [HostEvent.ends, Bool.and_eq_true, beq_iff_eq] at ends
        exact .inr (ends.1 ▸ member)
    | _ => cases ends
  · rintro (quit | pressed)
    · exact ⟨_, quit, rfl⟩
    · exact ⟨_, pressed, by simp [HostEvent.ends, escape]⟩

/-- What can be relied on in a session that has just started. -/
structure Controlled (host : Host) (start : Session) : Prop where
  events : ∀ now, start.Leads now → now.Heeds host
  frames : ∀ now, start.Leads now → now.Advances
  /-- The session goes on until an event ends it, and the round of that event is the last one. -/
  ends : ∀ before : List (List HostEvent), (∀ events ∈ before, ¬Ending events) →
    (∀ after, start.rounds (before ++ after) =
      (((start.play before).1.rounds after).1,
        (start.play before).2 ++ ((start.play before).1.rounds after).2)) ∧
    ∀ events after, Ending events →
      start.rounds (before ++ events :: after) = start.play (before ++ [events])
  /-- After a trap nothing is executed until there is a reset: the machine changes in its keypad at
  most. -/
  stopped : ∀ now, start.Leads now → now.paused = false →
    now.machine.core.registers.halted = false →
    ∀ failure, now.machine.frame.result = .error failure →
    ∀ batches events, (∀ earlier ∈ batches, Unreset earlier) → Unreset events →
      ∃ keypad, ((now.advance.1.play batches).1.handleAll events).1.machine =
        now.machine.frame.state.halt.withKeypad keypad
  /-- A reset leads back to the machine of the start, which was at power-on, and to no other random
  bytes. The machine stays as it is, but for its keypad, until the session is no longer paused. -/
  renewed : start.machine.restarted = start.machine ∧
    start.machine.core.registers.halted = false ∧
    ∀ now, start.Leads now →
      (now.handle (.keyDown .reset)).1.paused = now.paused ∧
      ∀ batches events, (∀ earlier ∈ batches, Unreset earlier) → Unreset events →
        (now.handle (.keyDown .reset)).1.Rests batches →
        ∃ keypad, (((now.handle (.keyDown .reset)).1.play batches).1.handleAll events).1.machine =
          (start.machine.supplied now.machine.core.random).withKeypad keypad

/-- Whatever the image, the settings, the random bytes and the events are. -/
theorem start_controlled {host : Host} {words : List String} {session : Session}
    {outputs : List Output} (named : host.KeysNamed)
    (started : start host words = (.session session, outputs)) : Controlled host session := by
  obtain ⟨rom, _, begun⟩ := begun_of_start started
  have free := begun.free named
  have course {now : Session} (leads : session.Leads now) : session.InCourse now :=
    begun.inCourse.of_leads leads
  exact {
    events := fun now leads => (course leads).heeds named begun.keymap free
    frames := fun now leads => (course leads).advances
    ends := by
      intro before goesOn
      have unended : ∀ events ∈ before, events.any (HostEvent.ends session.keymap) = false :=
        fun events member => Bool.eq_false_iff.mpr fun ends =>
          goesOn events member (free.any_ends_iff.mp ends)
      have goes := Session.rounds_append begun.running unended
      refine ⟨goes, fun events after ending => ?_⟩
      have ends : events.any (HostEvent.ends (session.play before).1.keymap) = true := by
        rw [Session.play_keymap]
        exact free.any_ends_iff.mpr ending
      rw [goes, Session.rounds_of_ends ends, Session.play_append]
      simp [Session.play]
    stopped := by
      intro now leads resumed running failure failed batches events unreset last
      have halted := Session.halted_of_trap (course leads).reached resumed running failed
      have rests := Session.rests_of_halted unreset (by rw [halted]; rfl)
      rw [← halted]
      exact Session.handleAll_of_rests unreset last rests
    renewed := by
      refine ⟨begun.restarted, ?_, fun now leads => ?_⟩
      · rw [← begun.restarted]
        rfl
      have heeds := (course leads).heeds named begun.keymap free
      have machine := Session.reset_machine (course leads) begun.restarted
      rw [heeds.reset, ← machine]
      refine ⟨rfl, fun batches events unreset last rests => ?_⟩
      exact Session.handleAll_of_rests unreset last rests }

theorem muteHost_controlled :
    ∃ session outputs, start muteHost ["siren.ch8"] = (.session session, outputs) ∧
      Controlled muteHost session := by
  obtain ⟨session, outputs, started⟩ := muteHost_session
  exact ⟨session, outputs, started, start_controlled muteHost_keysNamed started⟩

end Chip8.Frontend
