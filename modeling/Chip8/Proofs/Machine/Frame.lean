import Chip8.Proofs.Machine.Cycle

namespace Chip8

open Operation

/-- An image that was taken, from bytes or from a file. -/
inductive Rom.Accepted : Rom → Prop where
  | bytes {data : Array UInt8} {rom : Rom} {records : List Journal.Record}
      (taken : Rom.ofBytes data = ⟨.ok rom, records⟩) : Accepted rom
  | file {path : String} {found : Found} {rom : Rom} {records : List Journal.Record}
      (taken : Rom.ofFile path found = ⟨.ok rom, records⟩) : Accepted rom

theorem Rom.size_of_ofBytes {data : Array UInt8} {rom : Rom} {records : List Journal.Record}
    (taken : Rom.ofBytes data = ⟨.ok rom, records⟩) :
    0 < rom.data.size ∧ rom.data.size ≤ Rom.maxSize := by
  unfold Rom.ofBytes at taken
  split at taken
  · cases taken
  · rename_i nonempty
    split at taken
    · cases taken
    · rename_i fits
      cases taken
      exact ⟨Nat.pos_of_ne_zero nonempty, Nat.le_of_not_lt fits⟩

theorem Rom.accepted_of_size {data : Array UInt8} (nonempty : data.size ≠ 0)
    (fits : data.size ≤ Rom.maxSize) : (⟨"", data⟩ : Rom).Accepted := by
  have notLarge : ¬Rom.maxSize < data.size := by omega
  have taken : (Rom.ofBytes data).result = .ok ⟨"", data⟩ := by
    rw [Rom.ofBytes, if_neg nonempty, if_neg notLarge]
  cases reading : Rom.ofBytes data with
  | mk result records =>
      rw [reading] at taken
      cases taken
      exact .bytes reading

theorem Rom.Accepted.size {rom : Rom} (accepted : rom.Accepted) :
    0 < rom.data.size ∧ rom.data.size ≤ Rom.maxSize := by
  cases accepted with
  | bytes taken => exact size_of_ofBytes taken
  | @file path found rom records taken =>
      cases found with
      | impossible => cases taken
      | obstacle => cases taken
      | contents data =>
          unfold Rom.ofFile at taken
          dsimp only at taken
          split at taken
          · cases taken
          · rename_i image _ read
            cases taken
            exact (size_of_ofBytes read : 0 < image.data.size ∧ image.data.size ≤ maxSize)

namespace Memory

/-- Memory that holds a program and is otherwise as at power-on. -/
def holding (program : Array UInt8) : Memory where
  cells := Vector.ofFn fun a =>
    if a < programStart then reserved a else program.getD (a - programStart) 0
  programSize := program.size

theorem loadProgram_powerOn {program : Array UInt8} (fits : program.size ≤ programCapacity) :
    powerOn.loadProgram program = .ok (holding program) := by
  unfold loadProgram holding
  rw [if_pos fits]
  simp [powerOn]

end Memory

namespace Machine

variable (machine : Machine)

def image : Memory :=
  match machine.rom with
  | none => .powerOn
  | some rom => .holding rom.data

def inserted (rom : Rom) : Machine := { machine with rom := some rom }

/-- The machine at power-on with its program in memory, and silent. -/
def restarted : Machine :=
  { machine.powerOn with
    core := { machine.powerOn.core with memory := machine.image }
    toneOn := false }

def elapsed : Machine :=
  machine.withCore { machine.core with timers := machine.core.timers.tick }

def ticked : Machine :=
  (machine.withCore { machine.core with timers := machine.core.timers.tick }).synced

def framed : Machine := { machine with frameCount := machine.frameCount + 1 }

/-- Cycles one after another, until one fails, the machine is halted, or there have been so many. -/
def cycles (machine : Machine) : Nat → Outcome Machine Unit
  | 0 => ⟨.ok (), machine, []⟩
  | count + 1 =>
      if machine.core.registers.halted then ⟨.ok (), machine, []⟩
      else
        match machine.step with
        | ⟨.error failure, after, effects⟩ => ⟨.error failure, after, effects⟩
        | ⟨.ok _, after, effects⟩ =>
            let rest := cycles after count
            { rest with effects := effects ++ rest.effects }

end Machine

namespace Action

variable {machine : Machine}

theorem tick_supervised (supervised : machine.Supervised) :
    Action.tick (Action.notify Machine.nesting) ⟨machine, []⟩ =
      ⟨.ok (), ⟨machine.elapsed.informed, []⟩, machine.elapsed.toneNotes⟩ := by
  have elapsedSupervised : machine.elapsed.Supervised := supervised
  exact (bind_of_silent (modify_at _ _)).trans
    (syncSound_supervised ⟨machine.elapsed, []⟩ elapsedSupervised _)

theorem tick_passive (passive : machine.Passive) :
    Action.tick (Action.notify Machine.nesting) ⟨machine, []⟩ =
      ⟨.ok (), ⟨machine.ticked, []⟩,
        (machine.withCore { machine.core with timers := machine.core.timers.tick }).toneNotes⟩ := by
  have elapsedPassive : machine.elapsed.Passive := passive
  rw [tick_supervised passive.supervised, elapsedPassive.informed]
  rfl

theorem reload_powerOn (accepted : ∀ rom ∈ machine.rom, rom.Accepted) (replaced : List Registers) :
    reload ⟨machine.powerOn.synced, replaced⟩ = ⟨.ok (), ⟨machine.restarted, replaced⟩, []⟩ := by
  cases loaded : machine.rom with
  | none =>
      have none : machine.powerOn.synced.rom = none := loaded
      simp only [reload, none, Machine.restarted, Machine.image, loaded]
      rfl
  | some rom =>
      have some : machine.powerOn.synced.rom = some rom := loaded
      have fits := Memory.loadProgram_powerOn (accepted rom loaded).size.2
      have memory : machine.powerOn.synced.core.memory = .powerOn := rfl
      simp only [reload, some, memory, fits, Machine.restarted, Machine.image, loaded]
      rfl

theorem reset_ignored (ignored : machine.Ignored "sound")
    (accepted : ∀ rom ∈ machine.rom, rom.Accepted) (depth : Nat) (replaced : List Registers) :
    Action.reset (Action.notify depth) ⟨machine, replaced⟩ =
      ⟨.ok (), ⟨machine.restarted, replaced ++ [machine.core.registers]⟩,
        machine.powerOn.toneNotes ++ [.recorded (Journal.info "Emulator reset")]⟩ := by
  refine (bind_of_silent (modify_at _ _)).trans ?_
  refine bind_of_ok (syncSound_ignored ⟨machine.powerOn, _⟩ depth ignored) ?_
  exact (bind_of_silent (reload_powerOn accepted _)).trans (leave_at _ _)

theorem reset_passive (passive : machine.Passive) (accepted : ∀ rom ∈ machine.rom, rom.Accepted) :
    Action.reset (Action.notify Machine.nesting) ⟨machine, []⟩ =
      ⟨.ok (), ⟨machine.restarted, [machine.core.registers]⟩,
        machine.powerOn.toneNotes ++ [.recorded (Journal.info "Emulator reset")]⟩ :=
  reset_ignored (passive.ignored _) accepted _ []

end Action

namespace Machine

variable {machine : Machine}

theorem Cycle.subscribers {outcome : Outcome Machine Unit} (cycle : machine.Cycle outcome) :
    outcome.state.subscribers = machine.subscribers := by
  cases cycle with
  | done => exact logged_subscribers _ _
  | _ => rfl

theorem step_subscribers (passive : machine.Passive) :
    machine.step.state.subscribers = machine.subscribers :=
  (step_cycle passive).subscribers

theorem tick_eq (passive : machine.Passive) :
    machine.tick = ⟨.ok (), machine.ticked,
      (machine.withCore { machine.core with timers := machine.core.timers.tick }).toneNotes⟩ :=
  perform_of _ (Action.tick_passive passive)

theorem reset_eq (passive : machine.Passive) (accepted : ∀ rom ∈ machine.rom, rom.Accepted) :
    machine.reset = ⟨.ok (), machine.restarted,
      machine.powerOn.toneNotes ++ [.recorded (Journal.info "Emulator reset")]⟩ :=
  perform_of _ (Action.reset_passive passive accepted)

theorem load_eq (passive : machine.Passive) {rom : Rom} (accepted : rom.Accepted) :
    machine.load rom = ⟨.ok (), (machine.inserted rom).restarted,
      machine.powerOn.toneNotes ++ [.recorded (Journal.info "Emulator reset")] ++
        [.recorded (Journal.info ("Loaded ROM " ++ rom.name ++ " (" ++ toString rom.data.size ++
          " bytes)"))]⟩ := by
  have known : ∀ other ∈ (machine.inserted rom).rom, other.Accepted := by
    rintro _ ⟨⟩
    exact accepted
  have insertedPassive : (machine.inserted rom).Passive := passive
  have reset := Action.reset_passive insertedPassive known
  have work : Action.load (Action.notify nesting) rom ⟨machine, []⟩ = _ :=
    (bind_of_silent (modify_at _ _)).trans (bind_of_ok reset (leave_at _ _))
  exact perform_of (fun notify => Action.load notify rom) work

theorem input_of_error {key : Int} {pressed : Bool} {failure : Failure}
    (refused : machine.core.keypad.set key pressed = .error failure) :
    machine.input key pressed = ⟨.error failure, machine, []⟩ := by
  simp only [input, perform, Action.input, refused]

theorem input_of_ok {key : Int} {pressed : Bool} {keypad : Keypad}
    (taken : machine.core.keypad.set key pressed = .ok keypad) :
    machine.input key pressed =
      ⟨.ok (), machine.withCore { machine.core with keypad := keypad }, []⟩ := by
  simp only [input, perform, Action.input, taken]
  rfl

theorem input_leaves (machine : Machine) (key : Int) (pressed : Bool) :
    ∃ result keypad, machine.input key pressed =
      ⟨result, machine.withCore { machine.core with keypad := keypad }, []⟩ := by
  cases taken : machine.core.keypad.set key pressed with
  | error failure => exact ⟨_, machine.core.keypad, input_of_error taken⟩
  | ok keypad => exact ⟨_, keypad, input_of_ok taken⟩

theorem steps_cycles (passive : machine.Passive) (count : Nat) :
    Action.steps (Action.notify nesting) count ⟨machine, []⟩ = (machine.cycles count).atWork := by
  -- Along the run the subscribers stay the same, and so stay passive.
  induction count generalizing machine with
  | zero => rfl
  | succ count ih =>
      refine (bind_of_silent (get_at _)).trans ?_
      unfold cycles
      cases halted : machine.core.registers.halted with
      | true => rfl
      | false =>
          have subscribers := step_subscribers passive
          have first := step_work passive
          rcases stepped : machine.step with ⟨_ | _, after, effects⟩
          · rw [stepped] at first
            exact bind_of_error first
          · rw [stepped] at first subscribers
            exact bind_of_ok first (ih (passive.of_subscribers subscribers))

/-- Induction on the cycles of a frame: the machine is left as it is, a cycle fails, or a cycle
succeeds and others follow. -/
theorem cycles_induction {R : Machine → Outcome Machine Unit → Prop}
    (idle : ∀ {machine : Machine}, R machine ⟨.ok (), machine, []⟩)
    (failed : ∀ {machine : Machine} {failure : Failure}, machine.Passive →
      machine.step.result = .error failure → R machine machine.step)
    (completed : ∀ {machine : Machine} {rest : Outcome Machine Unit}, machine.Passive →
      machine.step.result = .ok () → R machine.step.state rest →
      R machine { rest with effects := machine.step.effects ++ rest.effects })
    (passive : machine.Passive) (count : Nat) : R machine (machine.cycles count) := by
  induction count generalizing machine with
  | zero => exact idle
  | succ count ih =>
      have later := ih (passive.of_subscribers (step_subscribers passive))
      have stopping (failure : Failure) (stopped : machine.step.result = .error failure) :=
        failed passive stopped
      have going (done : machine.step.result = .ok ()) := completed passive done later
      unfold cycles
      split
      · exact idle
      · rcases stepped : machine.step with ⟨failure | _, after, effects⟩
        · rw [stepped] at stopping
          exact stopping failure rfl
        · rw [stepped] at going
          exact going rfl

theorem cycles_subscribers (passive : machine.Passive) (count : Nat) :
    (machine.cycles count).state.subscribers = machine.subscribers := by
  refine cycles_induction (R := fun machine outcome =>
    outcome.state.subscribers = machine.subscribers) rfl ?_ ?_ passive count
  · intro machine failure passive _
    exact step_subscribers passive
  · intro machine rest passive _ later
    exact later.trans (step_subscribers passive)

theorem cycles_passive (passive : machine.Passive) (count : Nat) :
    (machine.cycles count).state.Passive :=
  passive.of_subscribers (cycles_subscribers passive count)

theorem frame_of_error (passive : machine.Passive) {failure : Failure} {after : Machine}
    {effects : List Effect}
    (stopped : machine.cycles machine.frameCycles = ⟨.error failure, after, effects⟩) :
    machine.frame = ⟨.error failure, after, effects⟩ := by
  have work := steps_cycles passive machine.frameCycles
  rw [stopped] at work
  have framed : Action.frame (Action.notify nesting) ⟨machine, []⟩ =
      ⟨.error failure, ⟨after, []⟩, effects⟩ :=
    (bind_of_silent (get_at _)).trans (bind_of_error work)
  exact perform_of _ framed

theorem frame_of_ok (passive : machine.Passive) {after : Machine} {effects : List Effect}
    (done : machine.cycles machine.frameCycles = ⟨.ok (), after, effects⟩) :
    machine.frame = ⟨.ok (), after.ticked.framed, effects ++
      ((after.withCore { after.core with timers := after.core.timers.tick }).toneNotes ++
        after.ticked.framed.notes (.frameComplete after.core.screen))⟩ := by
  have work := steps_cycles passive machine.frameCycles
  have afterPassive := cycles_passive passive machine.frameCycles
  rw [done] at work afterPassive
  have framedPassive : after.ticked.framed.Passive := afterPassive
  have framed : Action.frame (Action.notify nesting) ⟨machine, []⟩ =
      ⟨.ok (), ⟨after.ticked.framed, []⟩, effects ++
        ((after.withCore { after.core with timers := after.core.timers.tick }).toneNotes ++
          after.ticked.framed.notes (.frameComplete after.core.screen))⟩ := by
    refine (bind_of_silent (get_at _)).trans (bind_of_ok work ?_)
    refine bind_of_ok (Action.tick_passive afterPassive) ?_
    refine (bind_of_silent (modify_at _ _)).trans ((bind_of_silent (get_at _)).trans ?_)
    exact Action.notify_passive ⟨after.ticked.framed, []⟩ framedPassive _ _
  exact perform_of _ framed

/-- A frame ends with a cycle that fails, or with a tick after its cycles. -/
theorem frame_cases (passive : machine.Passive) {outcome : Outcome Machine Unit}
    (cycled : machine.cycles machine.frameCycles = outcome) :
    (∃ failure, outcome.result = .error failure ∧ machine.frame = outcome) ∨
      outcome.result = .ok () ∧ machine.frame = ⟨.ok (), outcome.state.ticked.framed,
        outcome.effects ++
          ((outcome.state.withCore { outcome.state.core with
              timers := outcome.state.core.timers.tick }).toneNotes ++
            outcome.state.ticked.framed.notes (.frameComplete outcome.state.core.screen))⟩ := by
  rcases outcome with ⟨failure | _, after, effects⟩
  · exact .inl ⟨failure, rfl, frame_of_error passive cycled⟩
  · exact .inr ⟨rfl, frame_of_ok passive cycled⟩

theorem frame_subscribers (passive : machine.Passive) :
    machine.frame.state.subscribers = machine.subscribers := by
  have cycled := cycles_subscribers passive machine.frameCycles
  rcases frame_cases passive rfl with ⟨_, _, frame⟩ | ⟨_, frame⟩ <;> rw [frame] <;> exact cycled

end Machine

end Chip8
