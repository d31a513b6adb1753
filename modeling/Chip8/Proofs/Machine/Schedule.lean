import Chip8.Proofs.Instruction.Reads
import Chip8.Proofs.Machine.Standing

namespace Chip8

/-- What may happen between two cycles. -/
inductive Interlude where
  | tick
  | input (key : Int) (pressed : Bool)
  deriving DecidableEq, Repr

namespace Interlude

def command : Interlude → Command
  | .tick => .tick
  | .input key pressed => .input key pressed

def input? : Interlude → Option (Int × Bool)
  | .tick => none
  | .input key pressed => some (key, pressed)

end Interlude

def ticks (gap : List Interlude) : Nat := gap.count .tick

/-- The key input in a gap, in its order. -/
def inputs (gap : List Interlude) : List (Int × Bool) := gap.filterMap Interlude.input?

def Timers.passed (timers : Timers) : Nat → Timers
  | 0 => timers
  | count + 1 => timers.tick.passed count

/-- The keypad after an input, which changes nothing if there is no such key. -/
def Keypad.told (keypad : Keypad) (input : Int × Bool) : Keypad :=
  match keypad.set input.1 input.2 with
  | .ok next => next
  | .error _ => keypad

namespace Machine

variable (machine : Machine)

/-- The machine with other timers and another keypad, and with other notes about them: of what was
told last about the tone, and of the lines of the log. -/
def beside (timers : Timers) (keypad : Keypad) (toneOn : Bool) (traceLog : TraceLog) : Machine :=
  { machine with
    core := machine.core.amid machine.core.random timers keypad
    toneOn := toneOn
    traceLog := traceLog }

def waited (gap : List Interlude) : Machine := machine.run (gap.map Interlude.command)

/-- The machines that begin the cycles of a schedule. -/
def beginnings (machine : Machine) : List (List Interlude) → List Machine
  | [] => []
  | gap :: rest => machine.waited gap :: beginnings (machine.waited gap).step.state rest

variable {machine}

theorem obey_tick_eq (passive : machine.Passive) :
    (machine.obey .tick).state =
      machine.beside machine.core.timers.tick machine.core.keypad
        machine.core.timers.tick.sounding machine.traceLog := by
  rw [obey, tick_eq passive]
  rfl

theorem obey_input_eq (machine : Machine) (key : Int) (pressed : Bool) :
    (machine.obey (.input key pressed)).state =
      machine.beside machine.core.timers (machine.core.keypad.told (key, pressed))
        machine.toneOn machine.traceLog := by
  rw [obey, Keypad.told]
  cases taken : machine.core.keypad.set key pressed with
  | error failure =>
      rw [input_of_error taken]
      rfl
  | ok keypad =>
      rw [input_of_ok taken]
      rfl

theorem waited_eq (passive : machine.Passive) (gap : List Interlude) :
    ∃ toneOn, machine.waited gap =
      machine.beside (machine.core.timers.passed (ticks gap))
        ((inputs gap).foldl Keypad.told machine.core.keypad) toneOn machine.traceLog := by
  induction gap generalizing machine with
  | nil => exact ⟨machine.toneOn, rfl⟩
  | cons interlude rest ih =>
      cases interlude with
      | tick =>
          have first := obey_tick_eq passive
          have stillPassive : (machine.obey .tick).state.Passive := by
            rw [first]
            exact passive
          obtain ⟨toneOn, later⟩ := ih stillPassive
          have ticked : ticks (.tick :: rest) = ticks rest + 1 := List.count_cons_self
          refine ⟨toneOn, later.trans ?_⟩
          rw [first, ticked]
          rfl
      | input key pressed =>
          have first := machine.obey_input_eq key pressed
          have stillPassive : (machine.obey (.input key pressed)).state.Passive := by
            rw [first]
            exact passive
          obtain ⟨toneOn, later⟩ := ih stillPassive
          have ticked : ticks (.input key pressed :: rest) = ticks rest :=
            List.count_cons_of_ne (by rintro ⟨⟩)
          refine ⟨toneOn, later.trans ?_⟩
          rw [first, ticked]
          rfl

theorem waited_passive (passive : machine.Passive) (gap : List Interlude) :
    (machine.waited gap).Passive := by
  obtain ⟨toneOn, waited⟩ := waited_eq passive gap
  rw [waited]
  exact passive

/-- The next cycle executes this instruction, whether it succeeds or not. -/
def Executes (machine : Machine) (instruction : Instruction) : Prop :=
  machine.core.registers.halted = false ∧ machine.core.Fetches instruction.word

theorem executes_iff {instruction : Instruction} :
    machine.Executes instruction ↔ machine.core.registers.halted = false ∧
      ∃ op, machine.core.memory.readOpcode machine.core.registers.pc = .ok op ∧
        Instruction.decode? op = some instruction := by
  simp only [Executes, Core.fetches_iff, Instruction.decode?_eq_some_iff]

theorem Executes.unique {one other : Instruction} (first : machine.Executes one)
    (second : machine.Executes other) : one = other := by
  obtain ⟨_, op, read, known⟩ := executes_iff.mp first
  obtain ⟨_, same, readSame, knownSame⟩ := executes_iff.mp second
  rw [read] at readSame
  cases readSame
  rw [known] at knownSame
  exact Option.some.inj knownSame

/-- No cycle of a schedule executes an instruction of a kind. -/
def Avoids (machine : Machine) (gaps : List (List Interlude)) (kind : Instruction → Prop) : Prop :=
  ∀ before ∈ machine.beginnings gaps, ∀ instruction : Instruction,
    before.Executes instruction → ¬kind instruction

theorem Avoids.cons {gap : List Interlude} {rest : List (List Interlude)} {kind : Instruction → Prop}
    (avoids : machine.Avoids (gap :: rest) kind) :
    (∀ instruction, (machine.waited gap).Executes instruction → ¬kind instruction) ∧
      (machine.waited gap).step.state.Avoids rest kind :=
  List.forall_mem_cons.mp avoids

theorem Standing.executing {program : Array UInt8} {place : Nat} {addresses : List Nat}
    (standing : Standing program place addresses machine) (instruction : Instruction)
    (inside : place + 1 < 3584)
    (word : (program.getD place 0).toNat * 0x100 + (program.getD (place + 1) 0).toNat =
      instruction.word) :
    machine.Executes instruction :=
  ⟨standing.running, word ▸ Core.fetches_holding standing.memory inside standing.counter⟩

theorem Standing.waited {program : Array UInt8} {place : Nat} {addresses : List Nat}
    (standing : Standing program place addresses machine) (gap : List Interlude) :
    Standing program place addresses (machine.waited gap) := by
  induction gap generalizing machine with
  | nil => exact standing
  | cons interlude rest ih =>
      cases interlude with
      | tick => exact ih standing.tick
      | input key pressed => exact ih (standing.input key pressed)

end Machine

end Chip8
