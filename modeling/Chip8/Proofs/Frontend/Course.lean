import Chip8.Proofs.Frontend.Rounds
import Chip8.Proofs.Machine.Driving
import Chip8.Proofs.Machine.Tone

/-! What holds of a session at all times: before each event, between the last event of a round and its
frame, and between rounds. Only commands of a player reach the machine, and so its setup stays what it
was; and the beeper is always as the machine told it last. -/

namespace Chip8.Frontend

variable {keymap : List (HostKey × Fin 16)}

theorem request_cases {event : HostEvent} {command : Command}
    (asked : request keymap event = some command) :
    (∃ (index : Fin 16) (pressed : Bool), command = .input index.val pressed) ∨
      event = .keyDown .reset ∧ command = .reset := by
  cases event with
  | keyDown key =>
      unfold request at asked
      dsimp only at asked
      split at asked
      · cases asked
        exact .inl ⟨_, true, rfl⟩
      · split at asked <;> cases asked
        rename_i reset
        exact .inr ⟨congrArg _ reset, rfl⟩
  | keyUp key =>
      obtain ⟨index, _, rfl⟩ := Option.map_eq_some_iff.mp asked
      exact .inl ⟨index, false, rfl⟩
  | _ => cases asked

theorem request_plays {event : HostEvent} {command : Command}
    (asked : request keymap event = some command) : command.Plays := by
  obtain ⟨index, pressed, rfl⟩ | ⟨_, rfl⟩ := request_cases asked
  · exact .input index pressed
  · exact .reset

def Unreset (events : List HostEvent) : Prop := ∀ event ∈ events, event ≠ .keyDown .reset

theorem Unreset.inputs {events : List HostEvent} (unreset : Unreset events)
    {keymap : List (HostKey × Fin 16)} :
    ∀ command ∈ requests keymap events,
      ∃ (index : Fin 16) (pressed : Bool), command = .input index.val pressed := by
  intro command asked
  obtain ⟨event, member, request⟩ := List.mem_filterMap.mp asked
  obtain input | ⟨reset, _⟩ := request_cases request
  · exact input
  · exact absurd reset (unreset event member)

namespace Session

variable {start now : Session}

/-- The sessions to which events and frames lead. -/
inductive Leads (start : Session) : Session → Prop where
  | start : Leads start start
  | event {now : Session} (leads : Leads start now) (event : HostEvent) :
      Leads start (now.handle event).1
  | frame {now : Session} (leads : Leads start now) : Leads start now.advance.1

theorem Leads.handleAll (leads : start.Leads now) (events : List HostEvent) :
    start.Leads (now.handleAll events).1 := by
  induction events generalizing now with
  | nil => exact leads
  | cons event rest ih => exact ih (leads.event event)

theorem Leads.round (leads : start.Leads now) (events : List HostEvent) :
    start.Leads (now.round events).1 :=
  (leads.handleAll events).frame

theorem Leads.play (leads : start.Leads now) (batches : List (List HostEvent)) :
    start.Leads (now.play batches).1 := by
  induction batches generalizing now with
  | nil => exact leads
  | cons events rest ih => exact ih (leads.round events)

theorem turn_plays {command : Command} (asked : command ∈ now.turn) : command.Plays := by
  unfold turn at asked
  split at asked
  · cases asked
  · split at asked <;> simp only [List.mem_cons, List.not_mem_nil, or_false] at asked
    · obtain rfl | rfl := asked
      · exact .frame
      · exact .halt
    · subst asked
      exact .frame

/-- Nobody but the beeper listens to the tone, and it is as it was told last. -/
def InTune (session : Session) : Prop :=
  ∀ beeper ∈ session.beeper,
    session.machine.HeardByOne ∧ beeper.playing = session.machine.toneOn

theorem relay_none (effects : List Effect) : (relay none effects).1 = none := by
  induction effects with
  | nil => rfl
  | cons effect rest ih =>
      cases effect with
      | recorded record => exact ih
      | notified label event => exact ih

theorem InTune.obeying (inTune : now.InTune) (regular : now.machine.Regular) {command : Command}
    (plays : command.Plays) : (now.obeying [command]).InTune := by
  intro sounder left
  have told : now.machine.effects [command] = (now.machine.obey command).effects :=
    List.append_nil _
  have unshared (label : Int) : command ≠ .listen "sound" label := by
    cases plays <;> rintro ⟨⟩
  unfold Session.obeying at left
  rw [told] at left
  cases before : now.beeper with
  | none =>
      rw [before, relay_none] at left
      cases left
  | some beeper =>
      obtain ⟨heard, playing⟩ := inTune beeper before
      have turns := Machine.obey_turns regular heard command
      rw [← playing] at turns
      obtain ⟨⟨after, relayed, follows⟩, _⟩ := relay_turns turns
      rw [before, relayed] at left
      cases left
      exact ⟨Machine.obey_heardByOne regular heard unshared, follows⟩

/-- What holds of a session at all times, in terms of how it began. -/
structure InCourse (start now : Session) : Prop where
  reached : now.machine.Reached
  keymap : now.keymap = start.keymap
  setup : start.machine.SameSetup now.machine
  inTune : now.InTune

namespace InCourse

theorem obeying (course : start.InCourse now) {commands : List Command}
    (play : ∀ command ∈ commands, command.Plays) : start.InCourse (now.obeying commands) := by
  induction commands generalizing now with
  | nil => exact course
  | cons command rest ih =>
      obtain ⟨plays, playRest⟩ := List.forall_mem_cons.mp play
      have regular := course.reached.regular
      have first : start.InCourse (now.obeying [command]) :=
        ⟨course.reached.obey command, course.keymap,
          course.setup.trans (Machine.obey_sameSetup regular plays),
          course.inTune.obeying regular plays⟩
      rw [obeying_cons]
      exact ih first playRest

theorem told (course : start.InCourse now) {commands : List Command}
    (play : ∀ command ∈ commands, command.Plays) (switched ended : Bool) :
    start.InCourse (now.told commands switched ended) :=
  have obeyed := course.obeying play
  ⟨obeyed.reached, obeyed.keymap, obeyed.setup, obeyed.inTune⟩

theorem of_leads (begun : start.InCourse start) (leads : start.Leads now) : start.InCourse now := by
  induction leads with
  | start => exact begun
  | event _ event course =>
      rw [handle_eq]
      refine course.told (fun command asked => ?_) _ _
      exact request_plays (Option.mem_toList.mp asked)
  | frame _ course =>
      rw [advance_eq]
      exact course.obeying fun command => turn_plays

end InCourse

/-- No frame is run in these rounds: the session is paused, or its machine is halted, whenever one
would be. -/
def Rests (session : Session) : List (List HostEvent) → Prop
  | [] => True
  | events :: rest =>
      let told := (session.handleAll events).1
      (told.paused = true ∨ told.machine.core.registers.halted = true) ∧
        (session.round events).1.Rests rest

variable {events : List HostEvent} {batches : List (List HostEvent)}

theorem turn_of_idle (idle : now.paused = true ∨ now.machine.core.registers.halted = true) :
    now.turn = [] := by
  have resting : (now.paused || now.machine.core.registers.halted) = true := by simpa using idle
  unfold turn
  rw [if_pos resting]

theorem advance_of_idle (idle : now.paused = true ∨ now.machine.core.registers.halted = true) :
    now.advance.1 = now := by
  rw [advance_eq, turn_of_idle idle, obeying_nil]

theorem advance_of_busy (reached : now.machine.Reached) (resumed : now.paused = false)
    (running : now.machine.core.registers.halted = false) :
    (now.machine.frame.result = .ok () ∧ now.advance.1.machine = now.machine.frame.state) ∨
      ∃ stopped, now.machine.frame.result = .error (.trap stopped) ∧
        now.advance.1.machine = now.machine.frame.state.halt := by
  rw [advance_eq]
  obtain done | ⟨stopped, trapped⟩ := reached.frame_result
  · have turn : now.turn = [.frame] := by simp [turn, resumed, running, done]
    rw [turn]
    exact .inl ⟨done, rfl⟩
  · have turn : now.turn = [.frame, .halt] := by simp [turn, resumed, running, trapped]
    rw [turn]
    exact .inr ⟨stopped, trapped, rfl⟩

theorem halted_of_trap (reached : now.machine.Reached) (resumed : now.paused = false)
    (running : now.machine.core.registers.halted = false) {failure : Failure}
    (failed : now.machine.frame.result = .error failure) :
    now.advance.1.machine = now.machine.frame.state.halt := by
  obtain ⟨done, _⟩ | ⟨_, _, advanced⟩ := advance_of_busy reached resumed running
  · rw [failed] at done
    cases done
  · exact advanced

theorem handleAll_unreset (unreset : Unreset events) :
    ∃ keypad, (now.handleAll events).1.machine = now.machine.withKeypad keypad := by
  rw [handleAll_eq]
  exact Machine.run_inputs unreset.inputs

theorem play_of_rests (unreset : ∀ events ∈ batches, Unreset events)
    (rests : now.Rests batches) :
    ∃ keypad, (now.play batches).1.machine = now.machine.withKeypad keypad := by
  induction batches generalizing now with
  | nil => exact ⟨now.machine.core.keypad, rfl⟩
  | cons events rest ih =>
      obtain ⟨first, unresetRest⟩ := List.forall_mem_cons.mp unreset
      obtain ⟨idle, restsRest⟩ := rests
      obtain ⟨told, machine⟩ := handleAll_unreset first
      have round : (now.round events).1 = (now.handleAll events).1 := advance_of_idle idle
      obtain ⟨keypad, later⟩ := ih unresetRest restsRest
      refine ⟨keypad, later.trans ?_⟩
      rw [round, machine]
      rfl

theorem rests_of_halted (unreset : ∀ events ∈ batches, Unreset events)
    (halted : now.machine.core.registers.halted = true) : now.Rests batches := by
  induction batches generalizing now with
  | nil => trivial
  | cons events rest ih =>
      obtain ⟨first, unresetRest⟩ := List.forall_mem_cons.mp unreset
      obtain ⟨told, machine⟩ := handleAll_unreset first
      have stillHalted : (now.handleAll events).1.machine.core.registers.halted = true := by
        rw [machine]
        exact halted
      have round : (now.round events).1 = (now.handleAll events).1 :=
        advance_of_idle (.inr stillHalted)
      exact ⟨.inr stillHalted, ih unresetRest (round ▸ stillHalted)⟩

theorem handleAll_of_rests (unreset : ∀ earlier ∈ batches, Unreset earlier)
    (last : Unreset events) (rests : now.Rests batches) :
    ∃ keypad, ((now.play batches).1.handleAll events).1.machine =
      now.machine.withKeypad keypad := by
  obtain ⟨_, played⟩ := play_of_rests unreset rests
  obtain ⟨keypad, handled⟩ := handleAll_unreset last
  rw [played] at handled
  exact ⟨keypad, handled⟩

end Session

end Chip8.Frontend
