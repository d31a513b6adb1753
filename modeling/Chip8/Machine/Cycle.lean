import Chip8.Machine.Operation
import Chip8.Machine.Report

/-! # The machine at work

The operations of a machine: cycles, timer ticks, frames, key input, reset and load. Each announces
what happens, and subscribers may react by operations of their own while the first one is under way.

A reset replaces the processor's registers. A cycle that is under way then goes on with the
registers it began with: it fetches where they point, and keeps their count of cycles, while the
instruction it fetched acts on the new ones. An `Activity` therefore keeps the registers that were
replaced since the outermost operation began.
-/

namespace Chip8

/-- A machine at work, and the registers that resets have replaced, oldest first. -/
structure Activity where
  machine : Machine
  replaced : List Registers

namespace Activity

variable (activity : Activity)

/-- The number of the registers in use, counted from the beginning of the activity. -/
def generation : Nat := activity.replaced.length

def registersOf (generation : Nat) : Registers :=
  (activity.replaced[generation]?).getD activity.machine.core.registers

def setRegistersOf (generation : Nat) (registers : Registers) : Activity :=
  if generation < activity.replaced.length then
    { activity with replaced := activity.replaced.set generation registers }
  else { activity with machine := activity.machine.setRegisters registers }

/-- Replaces the registers and clears everything else that a reset clears. -/
def powerOn : Activity :=
  ⟨activity.machine.powerOn, activity.replaced ++ [activity.machine.core.registers]⟩

def onMachine (change : Machine → Machine) : Activity :=
  { activity with machine := change activity.machine }

end Activity

/-- A trap takes the program counter of the instruction that was under way. -/
def Failure.at (pc : Int) : Failure → Failure
  | .trap stopped => .trap (stopped.at pc)
  | failure => failure

abbrev Action := Operation Activity

abbrev Notifier := Event → Action Unit

namespace Action

open Operation

/-- Tells subscribers when the tone has to go on or off. What they were told last is noted before
they are told anew. -/
def syncSound (notify : Notifier) : Action Unit := do
  let activity ← get
  let active := activity.machine.core.timers.sounding
  if active = activity.machine.toneOn then pure ()
  else
    modify (·.onMachine fun machine => { machine with toneOn := active })
    notify (.sound active)

def execute (generation : Nat) : Action Listing := fun activity =>
  let registers := activity.registersOf generation
  let pc := registers.pc
  match activity.machine.core.memory.readOpcode pc with
  | .error fault => ⟨.error (.trap ⟨fault, some pc⟩), activity, []⟩
  | .ok op =>
      let fetched := { registers with opcode := op, pc := pc + 2 }
      let begun := activity.setRegistersOf generation fetched
      match Instruction.decode? op with
      | none =>
          let stopped :=
            if activity.machine.haltOnInvalid then
              activity.setRegistersOf generation { fetched with halted := true }
            else begun
          ⟨.error (.trap ⟨.invalidOpcode op.word, some pc⟩), stopped, []⟩
      | some instruction =>
          let (core, failure) := instruction.execute begun.machine.dialect begun.machine.core
          let done := begun.onMachine fun machine => { machine with core := core }
          match failure with
          | none => ⟨.ok (instruction.listing pc op), done, []⟩
          | some failure => ⟨.error (failure.at pc), done, []⟩

def complete (generation : Nat) (listing : Listing) : Action Unit :=
  modify fun activity =>
    let registers := activity.registersOf generation
    (activity.setRegistersOf generation { registers with cycles := registers.cycles + 1 }).onMachine
      fun machine => { machine with lastInstruction := some listing }

def trace (listing : Listing) : Action Unit := do
  let activity ← get
  if activity.machine.tracing then
    let line := activity.machine.traceLine listing
    modify (·.onMachine fun machine => { machine with traceLog := machine.traceLog.push line })
    leave (.recorded (Journal.debug line))
  else pure ()

/-- One cycle: an instruction is read and executed, unless the machine is halted. -/
def step (notify : Notifier) : Action Unit := do
  let activity ← get
  let generation := activity.generation
  if activity.machine.core.registers.halted then pure ()
  else
    notify (.beforeCycle activity.machine.core.registers.cycles)
    let listing ← execute generation
    complete generation listing
    syncSound notify
    trace listing
    notify (.executed listing)
    let after ← get
    notify (.afterCycle (after.registersOf generation).cycles)

def tick (notify : Notifier) : Action Unit := do
  modify (·.onMachine fun machine =>
    { machine with core := { machine.core with timers := machine.core.timers.tick } })
  syncSound notify

def steps (notify : Notifier) : Nat → Action Unit
  | 0 => pure ()
  | count + 1 => do
      let activity ← get
      if activity.machine.core.registers.halted then pure ()
      else
        step notify
        steps notify count

def frame (notify : Notifier) : Action Unit := do
  let activity ← get
  steps notify activity.machine.frameCycles
  tick notify
  modify (·.onMachine fun machine => { machine with frameCount := machine.frameCount + 1 })
  let after ← get
  notify (.frameComplete after.machine.core.screen)

def reload : Action Unit := fun activity =>
  match activity.machine.rom with
  | none => ⟨.ok (), activity, []⟩
  | some rom =>
      match activity.machine.core.memory.loadProgram rom.data with
      | .ok memory =>
          ⟨.ok (), activity.onMachine fun machine =>
            { machine with core := { machine.core with memory := memory } }, []⟩
      | .error fault => ⟨.error (.ofFault fault), activity, []⟩

def reset (notify : Notifier) : Action Unit := do
  modify Activity.powerOn
  syncSound notify
  reload
  leave (.recorded (Journal.info "Emulator reset"))

def load (notify : Notifier) (rom : Rom) : Action Unit := do
  modify (·.onMachine fun machine => { machine with rom := some rom })
  reset notify
  leave (.recorded
    (Journal.info ("Loaded ROM " ++ rom.name ++ " (" ++ toString rom.data.size ++ " bytes)")))

def loadInvalid (type : String) : Action Unit :=
  fail (.ofFault (.general ("Invalid ROM object provided: " ++ type)))

def input (key : Int) (pressed : Bool) : Action Unit := fun activity =>
  match activity.machine.core.keypad.set key pressed with
  | .ok keypad =>
      ⟨.ok (), activity.onMachine fun machine =>
        { machine with core := { machine.core with keypad := keypad } }, []⟩
  | .error failure => ⟨.error failure, activity, []⟩

def setDelay (value : Int) : Action Unit :=
  modify (·.onMachine fun machine =>
    { machine with
      core := { machine.core with
        timers := { machine.core.timers with delay := Numeral.lowByte value } } })

def react (notify : Notifier) : Reaction → Action Unit
  | .ignore => pure ()
  | .halt => modify (·.onMachine Machine.halt)
  | .reset => reset notify
  | .tick => tick notify
  | .step => step notify
  | .input key pressed => input key pressed
  | .setDelay value => setDelay value
  | .notCallable => fail .notCallable

/-- Tells one subscriber, which takes note and then reacts. One that cannot be told takes no
note. -/
def tell (notify : Notifier) (event : Event) (subscriber : Subscriber) : Action Unit :=
  match subscriber.reaction with
  | .notCallable => fail .notCallable
  | reaction => do
      let activity ← get
      leave (.notified subscriber.label (event.seenWith activity.machine.core.screen))
      react notify reaction

def tellAll (notify : Notifier) (event : Event) : List Subscriber → Action Unit
  | [] => pure ()
  | subscriber :: rest => do
      tell notify event subscriber
      tellAll notify event rest

/-- Tells all who wait for an event. Reactions may cause events in turn, `depth` deep. -/
def notify : Nat → Notifier
  | 0, event => do
      let activity ← get
      tellAll (fun _ => fail .nestedTooDeep) event (activity.machine.subscribersOf event.name)
  | depth + 1, event => do
      let activity ← get
      tellAll (notify depth) event (activity.machine.subscribersOf event.name)

end Action

namespace Machine

/-- How deep reactions may cause events. A thousand calls may be under way at once, and a level of events
takes several of them, so that reactions without end are given up on an earlier level than here. -/
def nesting : Nat := 1000

def perform {α : Type} (action : Notifier → Action α) (machine : Machine) : Outcome Machine α :=
  let outcome := action (Action.notify nesting) ⟨machine, []⟩
  ⟨outcome.result, outcome.state.machine, outcome.effects⟩

variable (machine : Machine)

def step : Outcome Machine Unit := machine.perform Action.step

def tick : Outcome Machine Unit := machine.perform Action.tick

def frame : Outcome Machine Unit := machine.perform Action.frame

def reset : Outcome Machine Unit := machine.perform Action.reset

def load (rom : Rom) : Outcome Machine Unit := machine.perform fun notify => Action.load notify rom

def loadInvalid (type : String) : Outcome Machine Unit :=
  machine.perform fun _ => Action.loadInvalid type

def input (key : Int) (pressed : Bool) : Outcome Machine Unit :=
  machine.perform fun _ => Action.input key pressed

def announce (event : Event) : Outcome Machine Unit := machine.perform fun notify => notify event

end Machine

end Chip8
