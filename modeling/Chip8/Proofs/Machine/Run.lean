import Chip8.Proofs.Machine.Frame

/-! A `Command` is anything that may be asked of a machine from outside, as long as subscribers only
listen. A run obeys commands one after another, whether they succeed or fail. What every part of a run
keeps is a property of every machine that a run can reach: `Kept.run`. -/

namespace Chip8

inductive Command where
  | load (rom : { rom : Rom // rom.Accepted })
  | reset
  | halt
  | input (key : Int) (pressed : Bool)
  | step
  | tick
  | frame
  /-- One more subscriber takes note of the events of a name. -/
  | listen (event : String) (label : Int)
  | setTracing (on : Bool)
  | setHaltOnInvalid (on : Bool)

/-- Those who listen from a command on. -/
def Command.subscribers : Command → List Subscriber
  | .listen event label => [⟨event, label, .ignore⟩]
  | _ => []

namespace Machine

def obey (machine : Machine) : Command → Outcome Machine Unit
  | .load rom => machine.load rom.val
  | .reset => machine.reset
  | .halt => ⟨.ok (), machine.halt, []⟩
  | .input key pressed => machine.input key pressed
  | .step => machine.step
  | .tick => machine.tick
  | .frame => machine.frame
  | .listen event label => ⟨.ok (), machine.subscribe ⟨event, label, .ignore⟩, []⟩
  | .setTracing on => ⟨.ok (), { machine with tracing := on }, []⟩
  | .setHaltOnInvalid on => ⟨.ok (), { machine with haltOnInvalid := on }, []⟩

/-- The machine after commands, each of which may have failed. -/
def run (machine : Machine) : List Command → Machine
  | [] => machine
  | command :: rest => (machine.obey command).state.run rest

def effects (machine : Machine) : List Command → List Effect
  | [] => []
  | command :: rest =>
      (machine.obey command).effects ++ (machine.obey command).state.effects rest

def outcomes (machine : Machine) : List Command → List (Outcome Machine Unit)
  | [] => []
  | command :: rest => machine.obey command :: (machine.obey command).state.outcomes rest

theorem run_step (machine : Machine) : machine.run [.step] = machine.step.state := by
  rw [run, run, obey]

/-- Subscribers only listen, and the program image is an accepted one. -/
structure Regular (machine : Machine) : Prop where
  passive : machine.Passive
  accepted : ∀ rom ∈ machine.rom, rom.Accepted

/-- A property that every part of a run keeps. -/
structure Kept (P : Machine → Prop) : Prop where
  cycle : ∀ {machine : Machine} {outcome : Outcome Machine Unit}, machine.Regular → P machine →
    machine.Cycle outcome → P outcome.state
  tick : ∀ {machine : Machine}, P machine → P machine.ticked
  restart : ∀ {machine : Machine} (rom : Option Rom), (∀ image ∈ rom, image.Accepted) → P machine →
    P ({ machine with rom := rom } : Machine).restarted
  halt : ∀ {machine : Machine}, P machine → P machine.halt
  input : ∀ {machine : Machine} (keypad : Keypad), P machine →
    P (machine.withCore { machine.core with keypad := keypad })
  /-- What no instruction reads: the number of frames, the subscribers and the switches. -/
  aside : ∀ {machine : Machine} (frameCount : Nat) (tracing haltOnInvalid : Bool)
    (subscribers : List Subscriber), P machine →
    (∀ subscriber ∈ subscribers, subscriber.reaction = .ignore) →
    P { machine with
      frameCount := frameCount
      tracing := tracing
      haltOnInvalid := haltOnInvalid
      subscribers := subscribers }

theorem Cycle.rom {machine : Machine} {outcome : Outcome Machine Unit}
    (cycle : machine.Cycle outcome) : outcome.state.rom = machine.rom := by
  cases cycle with
  | done => exact completed_rom _ _ _
  | _ => rfl

theorem regular_kept : Kept Regular where
  cycle regular _ cycle :=
    ⟨fun subscriber member => regular.passive subscriber (cycle.subscribers ▸ member),
      fun rom loaded => regular.accepted rom (cycle.rom ▸ loaded)⟩
  tick regular := ⟨regular.passive, regular.accepted⟩
  restart _ accepted regular := ⟨regular.passive, accepted⟩
  halt regular := ⟨regular.passive, regular.accepted⟩
  input _ regular := ⟨regular.passive, regular.accepted⟩
  aside _ _ _ _ regular ignoring := ⟨ignoring, regular.accepted⟩

variable {P : Machine → Prop} {machine : Machine}

theorem Regular.step (regular : machine.Regular) : machine.step.state.Regular :=
  regular_kept.cycle regular regular (step_cycle regular.passive)

theorem Kept.cycles (kept : Kept P) (regular : machine.Regular) (holds : P machine) (count : Nat) :
    P (machine.cycles count).state := by
  refine cycles_induction (R := fun machine outcome => machine.Regular → P machine → P outcome.state)
    (fun _ holds => holds) ?_ ?_ regular.passive count regular holds
  · intro machine failure passive _ regular holds
    exact kept.cycle regular holds (step_cycle passive)
  · intro machine rest passive _ later regular holds
    exact later regular.step (kept.cycle regular holds (step_cycle passive))

theorem Kept.frame (kept : Kept P) (regular : machine.Regular) (holds : P machine) :
    P machine.frame.state := by
  have cycled := kept.cycles regular holds machine.frameCycles
  rcases frame_cases regular.passive rfl with ⟨_, _, frame⟩ | ⟨_, frame⟩ <;> rw [frame]
  · exact cycled
  · have passive := cycles_passive regular.passive machine.frameCycles
    exact kept.aside _ _ _ _ (kept.tick cycled) passive

theorem Kept.obey (kept : Kept P) (regular : machine.Regular) (holds : P machine)
    (command : Command) : P (machine.obey command).state := by
  cases command with
  | load rom =>
      rw [Machine.obey, load_eq regular.passive rom.property]
      exact kept.restart (some rom.val) (by rintro _ ⟨⟩; exact rom.property) holds
  | reset =>
      rw [Machine.obey, reset_eq regular.passive regular.accepted]
      exact kept.restart machine.rom regular.accepted holds
  | halt => exact kept.halt holds
  | input key pressed =>
      obtain ⟨_, keypad, input⟩ := machine.input_leaves key pressed
      rw [Machine.obey, input]
      exact kept.input keypad holds
  | step => exact kept.cycle regular holds (step_cycle regular.passive)
  | tick =>
      rw [Machine.obey, tick_eq regular.passive]
      exact kept.tick holds
  | frame => exact kept.frame regular holds
  | listen event label =>
      refine kept.aside machine.frameCount machine.tracing machine.haltOnInvalid _ holds ?_
      intro subscriber member
      rcases List.mem_append.mp member with known | added
      · exact regular.passive subscriber known
      · rw [List.mem_singleton.mp added]
  | setTracing on => exact kept.aside _ on _ _ holds regular.passive
  | setHaltOnInvalid on => exact kept.aside _ _ on _ holds regular.passive

theorem obey_subscribers (regular : machine.Regular) (command : Command) :
    (machine.obey command).state.subscribers = machine.subscribers ++ command.subscribers := by
  cases command with
  | load rom =>
      rw [Machine.obey, load_eq regular.passive rom.property]
      exact (List.append_nil _).symm
  | reset =>
      rw [Machine.obey, reset_eq regular.passive regular.accepted]
      exact (List.append_nil _).symm
  | input key pressed =>
      obtain ⟨_, keypad, input⟩ := machine.input_leaves key pressed
      rw [Machine.obey, input]
      exact (List.append_nil _).symm
  | step => exact (step_subscribers regular.passive).trans (List.append_nil _).symm
  | tick =>
      rw [Machine.obey, tick_eq regular.passive]
      exact (List.append_nil _).symm
  | frame => exact (frame_subscribers regular.passive).trans (List.append_nil _).symm
  | listen event label => rfl
  | _ => exact (List.append_nil _).symm

theorem create_regular (dialect : Dialect) (random : RandomSource) (cyclesPerFrame : Int) :
    (create dialect random cyclesPerFrame).Regular :=
  ⟨by rintro _ ⟨⟩, by rintro _ ⟨⟩⟩

theorem Regular.run (regular : machine.Regular) (commands : List Command) :
    (machine.run commands).Regular := by
  induction commands generalizing machine with
  | nil => exact regular
  | cons command rest ih => exact ih (regular_kept.obey regular regular command)

/-- What every part of a run keeps holds of every machine that a run reaches. -/
theorem Kept.run (kept : Kept P) (regular : machine.Regular) (holds : P machine)
    (commands : List Command) : P (machine.run commands) := by
  induction commands generalizing machine with
  | nil => exact holds
  | cons command rest ih =>
      exact ih (regular_kept.obey regular regular command) (kept.obey regular holds command)

/-- A machine to which commands lead from a new one. -/
def Reached (machine : Machine) : Prop :=
  ∃ dialect random cyclesPerFrame commands,
    (create dialect random cyclesPerFrame).run commands = machine

theorem Reached.regular (reached : machine.Reached) : machine.Regular := by
  obtain ⟨dialect, random, cyclesPerFrame, commands, rfl⟩ := reached
  exact (create_regular dialect random cyclesPerFrame).run commands

theorem run_append (machine : Machine) (first second : List Command) :
    machine.run (first ++ second) = (machine.run first).run second := by
  induction first generalizing machine with
  | nil => rfl
  | cons command rest ih => exact ih _

theorem Reached.run (reached : machine.Reached) (commands : List Command) :
    (machine.run commands).Reached := by
  obtain ⟨dialect, random, cyclesPerFrame, before, rfl⟩ := reached
  exact ⟨dialect, random, cyclesPerFrame, before ++ commands, run_append _ _ _⟩

theorem Reached.obey (reached : machine.Reached) (command : Command) :
    (machine.obey command).state.Reached :=
  reached.run [command]

theorem Kept.reached (kept : Kept P)
    (created : ∀ dialect random cyclesPerFrame, P (create dialect random cyclesPerFrame))
    (reached : machine.Reached) : P machine := by
  obtain ⟨dialect, random, cyclesPerFrame, commands, rfl⟩ := reached
  exact kept.run (create_regular dialect random cyclesPerFrame)
    (created dialect random cyclesPerFrame) commands

end Machine

end Chip8
