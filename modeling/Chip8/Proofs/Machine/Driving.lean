import Chip8.Proofs.Machine.FrameCycles
import Chip8.Proofs.Machine.Isolation
import Chip8.Proofs.Machine.Restart

namespace Chip8

/-- What is asked of a machine that is played on. -/
inductive Command.Plays : Command → Prop where
  | input (index : Fin 16) (pressed : Bool) : Plays (.input index.val pressed)
  | reset : Plays .reset
  | frame : Plays .frame
  | halt : Plays .halt

def Keypad.turned (keypad : Keypad) (index : Fin 16) (pressed : Bool) : Keypad :=
  ⟨keypad.down.setIfInBounds index pressed⟩

theorem Keypad.set_index (keypad : Keypad) (index : Fin 16) (pressed : Bool) :
    keypad.set index.val pressed = .ok (keypad.turned index pressed) := by
  have bound := index.isLt
  have known : (0 : Int) ≤ index.val ∧ (index.val : Int) < 16 := by omega
  unfold set key?
  rw [dif_pos known]
  rfl

theorem Keypad.isPressed_turned (keypad : Keypad) (index key : Fin 16) (pressed : Bool) :
    (keypad.turned index pressed).isPressed key =
      if key = index then pressed else keypad.isPressed key := by
  have named : (key.val : Int) = index.val ↔ key = index := Int.natCast_inj.trans Fin.val_inj
  rw [Keypad.isPressed_set (keypad.set_index index pressed)]
  simp only [named]

namespace Machine

/-- What nobody changes who plays on a machine. -/
structure SameSetup (machine after : Machine) : Prop where
  rom : after.rom = machine.rom
  dialect : after.dialect = machine.dialect
  cyclesPerFrame : after.cyclesPerFrame = machine.cyclesPerFrame
  tracing : after.tracing = machine.tracing
  haltOnInvalid : after.haltOnInvalid = machine.haltOnInvalid
  subscribers : after.subscribers = machine.subscribers

variable {machine middle after : Machine}

theorem SameSetup.trans (one : machine.SameSetup middle) (other : middle.SameSetup after) :
    machine.SameSetup after where
  rom := other.rom.trans one.rom
  dialect := other.dialect.trans one.dialect
  cyclesPerFrame := other.cyclesPerFrame.trans one.cyclesPerFrame
  tracing := other.tracing.trans one.tracing
  haltOnInvalid := other.haltOnInvalid.trans one.haltOnInvalid
  subscribers := other.subscribers.trans one.subscribers

theorem SameSetup.restarted (same : machine.SameSetup after) :
    after.restarted = machine.restarted.supplied after.core.random := by
  obtain ⟨rom, dialect, cycles, tracing, halting, subscribers⟩ := same
  simp only [Machine.restarted, powerOn, image, supplied, Core.supplied, rom, dialect, cycles, tracing,
    halting, subscribers]
  rfl

theorem restarted_restarted (machine : Machine) :
    machine.restarted.restarted = machine.restarted := rfl

theorem subscribe_restarted (machine : Machine) (subscriber : Subscriber) :
    machine.restarted.subscribe subscriber = (machine.subscribe subscriber).restarted := rfl

theorem Cycle.sameSetup {outcome : Outcome Machine Unit} (cycle : machine.Cycle outcome) :
    machine.SameSetup outcome.state := by
  cases cycle with
  | done =>
      rw [completed_eq]
      exact ⟨rfl, rfl, rfl, rfl, rfl, rfl⟩
  | _ => exact ⟨rfl, rfl, rfl, rfl, rfl, rfl⟩

theorem cycles_sameSetup (passive : machine.Passive) (count : Nat) :
    machine.SameSetup (machine.cycles count).state := by
  refine cycles_induction (R := fun machine outcome => machine.SameSetup outcome.state)
    ⟨rfl, rfl, rfl, rfl, rfl, rfl⟩ ?_ ?_ passive count
  · intro machine failure passive _
    exact (step_cycle passive).sameSetup
  · intro machine rest passive _ later
    exact (step_cycle passive).sameSetup.trans later

theorem cycles_keypad (passive : machine.Passive) (count : Nat) :
    (machine.cycles count).state.core.keypad = machine.core.keypad := by
  refine cycles_induction (R := fun machine outcome =>
    outcome.state.core.keypad = machine.core.keypad) rfl ?_ ?_ passive count
  · intro machine failure passive _
    exact (step_cycle passive).keypad
  · intro machine rest passive _ later
    exact later.trans (step_cycle passive).keypad

theorem frame_sameSetup (passive : machine.Passive) :
    machine.SameSetup machine.frame.state ∧
      machine.frame.state.core.keypad = machine.core.keypad := by
  have same := cycles_sameSetup passive machine.frameCycles
  have keypad := cycles_keypad passive machine.frameCycles
  rcases frame_cases passive rfl with ⟨_, _, frame⟩ | ⟨_, frame⟩ <;> rw [frame]
  · exact ⟨same, keypad⟩
  · exact ⟨same.trans ⟨rfl, rfl, rfl, rfl, rfl, rfl⟩, keypad⟩

def withKeypad (machine : Machine) (keypad : Keypad) : Machine :=
  machine.withCore { machine.core with keypad := keypad }

theorem obey_index (machine : Machine) (index : Fin 16) (pressed : Bool) :
    machine.obey (.input index.val pressed) =
      ⟨.ok (), machine.withKeypad (machine.core.keypad.turned index pressed), []⟩ := by
  rw [obey, input_of_ok (machine.core.keypad.set_index index pressed)]
  rfl

theorem obey_sameSetup (regular : machine.Regular) {command : Command} (plays : command.Plays) :
    machine.SameSetup (machine.obey command).state := by
  cases plays with
  | input index pressed =>
      rw [obey_index]
      exact ⟨rfl, rfl, rfl, rfl, rfl, rfl⟩
  | reset =>
      rw [obey, reset_eq regular.passive regular.accepted]
      exact ⟨rfl, rfl, rfl, rfl, rfl, rfl⟩
  | frame => exact (frame_sameSetup regular.passive).1
  | halt => exact ⟨rfl, rfl, rfl, rfl, rfl, rfl⟩

theorem run_inputs {commands : List Command}
    (inputs : ∀ command ∈ commands,
      ∃ (index : Fin 16) (pressed : Bool), command = .input index.val pressed) :
    ∃ keypad, machine.run commands = machine.withKeypad keypad := by
  induction commands generalizing machine with
  | nil => exact ⟨machine.core.keypad, rfl⟩
  | cons command rest ih =>
      obtain ⟨⟨index, pressed, rfl⟩, inputsRest⟩ := List.forall_mem_cons.mp inputs
      have later : ∃ keypad, (machine.obey (.input index.val pressed)).state.run rest =
          (machine.obey (.input index.val pressed)).state.withKeypad keypad := ih inputsRest
      rw [obey_index] at later
      obtain ⟨keypad, run⟩ := later
      refine ⟨keypad, ?_⟩
      rw [Machine.run, obey_index, run]
      rfl

theorem cycles_result (reached : machine.Reached) (count : Nat) :
    (machine.cycles count).result = .ok () ∨
      ∃ stopped, (machine.cycles count).result = .error (.trap stopped) := by
  refine cycles_induction (R := fun machine outcome => machine.Reached →
      outcome.result = .ok () ∨ ∃ stopped, outcome.result = .error (.trap stopped))
    (fun _ => .inl rfl) ?_ ?_ reached.regular.passive count reached
  · intro machine failure passive failed reached
    have running := running_of_step_error passive failed
    obtain ⟨fault, _, rfl⟩ := (reached.step_fails_iff running failure).mp failed
    exact .inr ⟨_, failed⟩
  · intro machine rest passive _ later reached
    exact later (reached.obey .step)

/-- Nothing but a trap ends a frame of a reachable machine early. -/
theorem Reached.frame_result (reached : machine.Reached) :
    machine.frame.result = .ok () ∨ ∃ stopped, machine.frame.result = .error (.trap stopped) := by
  have cycled := cycles_result reached machine.frameCycles
  rcases frame_cases reached.regular.passive rfl with ⟨_, _, frame⟩ | ⟨_, frame⟩ <;> rw [frame]
  · exact cycled
  · exact .inl rfl

end Machine

end Chip8
