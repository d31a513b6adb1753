import Chip8.Frontend.Session
import Chip8.Proofs.Machine.FrameCycles

namespace Chip8.Frontend

def request (keymap : List (HostKey × Fin 16)) : HostEvent → Option Command
  | .keyDown key =>
      match keymap.lookup key with
      | some index => some (.input index.val true)
      | none => if key = .reset then some .reset else none
  | .keyUp key => (keymap.lookup key).map fun index => .input index.val false
  | .quit | .other => none

def requests (keymap : List (HostKey × Fin 16)) (events : List HostEvent) : List Command :=
  events.filterMap (request keymap)

namespace HostEvent

/-- A key that is bound to the keypad controls nothing else. -/
def ends (keymap : List (HostKey × Fin 16)) : HostEvent → Bool
  | .quit => true
  | .keyDown key => key == .escape && (keymap.lookup key).isNone
  | .keyUp _ | .other => false

def pauses (keymap : List (HostKey × Fin 16)) : HostEvent → Bool
  | .keyDown key => key == .pause && (keymap.lookup key).isNone
  | .quit | .keyUp _ | .other => false

end HostEvent

/-- Whether events turn a session from paused to resumed or back. -/
def switches (keymap : List (HostKey × Fin 16)) : List HostEvent → Bool
  | [] => false
  | event :: rest => event.pauses keymap ^^ switches keymap rest

namespace Session

variable (session : Session)

/-- The session when its machine has obeyed commands, and has been listened to. -/
def obeying (commands : List Command) : Session :=
  { session with
    machine := session.machine.run commands
    beeper := (relay session.beeper (session.machine.effects commands)).1 }

/-- The session when events have asked for commands, and may have switched or ended it. -/
def told (commands : List Command) (switched ended : Bool) : Session :=
  { session.obeying commands with
    paused := session.paused ^^ switched
    running := session.running && !ended }

/-- What a round asks of the machine when events have been handled. A machine that a trap stopped is
halted. -/
def turn : List Command :=
  if session.paused || session.machine.core.registers.halted then []
  else
    match session.machine.frame.result with
    | .error (.trap _) => [.frame, .halt]
    | _ => [.frame]

def play (session : Session) : List (List HostEvent) → Session × List Output
  | [] => (session, [])
  | events :: rest =>
      let (next, before) := session.round events
      let (after, outputs) := next.play rest
      (after, before ++ outputs)

theorem relay_append (beeper : Option Tone.Beeper) (first second : List Effect) :
    (relay beeper (first ++ second)).1 = (relay (relay beeper first).1 second).1 := by
  induction first generalizing beeper with
  | nil => rfl
  | cons effect rest ih =>
      cases effect with
      | recorded record => exact ih beeper
      | notified label event =>
          cases beeper with
          | none => exact ih none
          | some sounder =>
              cases event with
              | sound active => exact ih (some (sounder.turn active).1)
              | _ => exact ih (some sounder)

theorem obeying_nil : session.obeying [] = session := rfl

theorem obeying_append (first second : List Command) :
    session.obeying (first ++ second) = (session.obeying first).obeying second := by
  unfold obeying
  rw [Machine.run_append, Machine.effects_append, relay_append]

theorem obeying_cons (command : Command) (rest : List Command) :
    session.obeying (command :: rest) = (session.obeying [command]).obeying rest :=
  session.obeying_append [command] rest

theorem take_eq (command : Command) :
    (session.take (session.machine.obey command)).1 = session.obeying [command] := by
  have told : session.machine.effects [command] = (session.machine.obey command).effects :=
    List.append_nil _
  unfold obeying
  rw [told]
  rfl

theorem advance_eq : session.advance.1 = session.obeying session.turn := by
  have framed : (session.take session.machine.frame).1 = session.obeying [.frame] :=
    session.take_eq .frame
  unfold advance turn
  split
  · rfl
  · rcases result : session.machine.frame.result with failure | done
    · cases failure with
      | trap stopped =>
          simp only [result]
          rw [obeying_cons, ← framed]
          rfl
      | _ =>
          simp only [result]
          exact framed
    · simp only [result]
      exact framed

theorem told_nil (switched ended : Bool) :
    session.told [] switched ended =
      { session with
        paused := session.paused ^^ switched
        running := session.running && !ended } := rfl

theorem told_obeying (commands : List Command) :
    session.told commands false false = session.obeying commands := by
  simp only [told, Bool.xor_false, Bool.not_false, Bool.and_true]
  rfl

theorem told_append (first second : List Command) (one other before after : Bool) :
    session.told (first ++ second) (one ^^ other) (before || after) =
      (session.told first one before).told second other after := by
  have obeyed := session.obeying_append first second
  simp only [told, obeyed, Bool.not_or]
  simp only [obeying, Bool.xor_assoc, Bool.and_assoc]

theorem control_eq (key : HostKey) :
    (session.control key).1 =
      session.told (if key = .reset then [.reset] else []) (key == .pause) (key == .escape) := by
  have reset := session.take_eq .reset
  by_cases escape : key = .escape
  · subst escape
    have apart : (HostKey.escape == HostKey.pause) = false := by decide
    have noReset : HostKey.escape ≠ HostKey.reset := by decide
    rw [if_neg noReset, told_nil, apart]
    simp only [control, if_true, Bool.xor_false, beq_self_eq_true, Bool.not_true, Bool.and_false]
  by_cases pause : key = .pause
  · subst pause
    have apart : (HostKey.pause == HostKey.escape) = false := by decide
    have noReset : HostKey.pause ≠ HostKey.reset := by decide
    rw [if_neg noReset, told_nil, apart]
    simp only [control, if_neg escape, if_true, Bool.xor_true, beq_self_eq_true, Bool.not_false,
      Bool.and_true]
  have noEscape : (key == HostKey.escape) = false := beq_eq_false_iff_ne.mpr escape
  have noPause : (key == HostKey.pause) = false := beq_eq_false_iff_ne.mpr pause
  rw [noEscape, noPause, told_obeying]
  unfold control
  rw [if_neg escape, if_neg pause]
  split
  · exact reset
  · split <;> rfl

theorem handle_eq (event : HostEvent) :
    (session.handle event).1 =
      session.told (request session.keymap event).toList (event.pauses session.keymap)
        (event.ends session.keymap) := by
  have unmoved := (session.told_obeying []).trans session.obeying_nil
  cases event with
  | quit =>
      simp only [handle, request, Option.toList_none, told_nil, HostEvent.pauses, HostEvent.ends,
        Bool.xor_false, Bool.not_true, Bool.and_false]
  | other => exact unmoved.symm
  | keyUp key =>
      cases bound : session.keymap.lookup key with
      | none =>
          simp only [handle, request, bound]
          exact unmoved.symm
      | some index =>
          have taken := session.take_eq (.input index.val false)
          simp only [handle, request, bound]
          exact taken.trans (session.told_obeying _).symm
  | keyDown key =>
      cases bound : session.keymap.lookup key with
      | some index =>
          -- The keypad comes before the controls: a key that is bound asks for input only.
          have taken := session.take_eq (.input index.val true)
          simp only [handle, request, HostEvent.pauses, HostEvent.ends, bound, Option.isNone_some,
            Bool.and_false]
          exact taken.trans (session.told_obeying _).symm
      | none =>
          have asked : (request session.keymap (.keyDown key)).toList =
              if key = .reset then [.reset] else [] := by
            simp only [request, bound]
            split <;> rfl
          rw [asked]
          simp only [handle, HostEvent.pauses, HostEvent.ends, bound, Option.isNone_none,
            Bool.and_true]
          exact session.control_eq key

theorem handleAll_eq (session : Session) (events : List HostEvent) :
    (session.handleAll events).1 =
      session.told (requests session.keymap events) (switches session.keymap events)
        (events.any (HostEvent.ends session.keymap)) := by
  induction events generalizing session with
  | nil => exact ((session.told_obeying []).trans session.obeying_nil).symm
  | cons event rest ih =>
      have first := session.handle_eq event
      have keymap : (session.handle event).1.keymap = session.keymap := by
        rw [first]
        rfl
      have later := ih (session.handle event).1
      have asked : requests session.keymap (event :: rest) =
          (request session.keymap event).toList ++ requests session.keymap rest := by
        unfold requests
        rw [List.filterMap_cons]
        cases request session.keymap event <;> rfl
      rw [keymap] at later
      rw [asked, switches, List.any_cons, told_append, ← first]
      exact later

theorem round_eq (events : List HostEvent) :
    (session.round events).1 =
      let told := session.told (requests session.keymap events) (switches session.keymap events)
        (events.any (HostEvent.ends session.keymap))
      told.obeying told.turn := by
  have handled := session.handleAll_eq events
  change ((session.handleAll events).1.advance).1 = _
  rw [handled, advance_eq]

theorem round_keymap (events : List HostEvent) :
    (session.round events).1.keymap = session.keymap := by
  rw [round_eq]
  rfl

theorem round_running (events : List HostEvent) :
    (session.round events).1.running =
      (session.running && !events.any (HostEvent.ends session.keymap)) := by
  rw [round_eq]
  rfl

theorem play_keymap (session : Session) (batches : List (List HostEvent)) :
    (session.play batches).1.keymap = session.keymap := by
  induction batches generalizing session with
  | nil => rfl
  | cons events rest ih => exact (ih _).trans (session.round_keymap events)

theorem play_append (session : Session) (before after : List (List HostEvent)) :
    session.play (before ++ after) =
      (((session.play before).1.play after).1,
        (session.play before).2 ++ ((session.play before).1.play after).2) := by
  induction before generalizing session with
  | nil => rfl
  | cons events rest ih =>
      have later := ih (session.round events).1
      simp only [List.cons_append, play, later, List.append_assoc]

variable {session}

theorem rounds_append (running : session.running = true) {before : List (List HostEvent)}
    (goesOn : ∀ events ∈ before, events.any (HostEvent.ends session.keymap) = false)
    (after : List (List HostEvent)) :
    session.rounds (before ++ after) =
      (((session.play before).1.rounds after).1,
        (session.play before).2 ++ ((session.play before).1.rounds after).2) := by
  induction before generalizing session with
  | nil => rfl
  | cons events rest ih =>
      obtain ⟨first, goesOnRest⟩ := List.forall_mem_cons.mp goesOn
      have stillRunning : (session.round events).1.running = true := by
        rw [round_running, running, first]
        rfl
      rw [← session.round_keymap events] at goesOnRest
      have later := ih stillRunning goesOnRest
      simp only [List.cons_append, rounds, play, stillRunning, if_true, later, List.append_assoc]

theorem rounds_of_ends {events : List HostEvent}
    (ending : events.any (HostEvent.ends session.keymap) = true) (after : List (List HostEvent)) :
    session.rounds (events :: after) = session.round events := by
  have stopped : (session.round events).1.running = false := by
    rw [round_running, ending, Bool.not_true, Bool.and_false]
  simp [rounds, stopped]

end Session

end Chip8.Frontend
