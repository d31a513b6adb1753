import Chip8.Proofs.Machine.Alike

namespace Chip8.Machine

def anew (dialect : Dialect) (random : RandomSource) (cyclesPerFrame : Int) : Option Rom → Machine
  | none => create dialect random cyclesPerFrame
  | some rom => ((create dialect random cyclesPerFrame).load rom).state

def equipped (machine : Machine) (tracing haltOnInvalid : Bool) (subscribers : List Subscriber) :
    Machine :=
  { machine with
    tracing := tracing
    haltOnInvalid := haltOnInvalid
    subscribers := subscribers }

theorem anew_eq (dialect : Dialect) (random : RandomSource) (cyclesPerFrame : Int)
    {rom : Option Rom} (accepted : ∀ image ∈ rom, image.Accepted) :
    anew dialect random cyclesPerFrame rom =
      ({ create dialect random cyclesPerFrame with rom := rom } : Machine).restarted := by
  cases rom with
  | none => rfl
  | some rom =>
      have passive := (create_regular dialect random cyclesPerFrame).passive
      rw [anew, load_eq passive (accepted rom rfl)]
      rfl

variable {machine : Machine}

theorem restarted_eq {rom : Option Rom} (accepted : ∀ image ∈ rom, image.Accepted) :
    ({ machine with rom := rom } : Machine).restarted =
      (anew machine.dialect machine.core.random machine.cyclesPerFrame rom).equipped
        machine.tracing machine.haltOnInvalid machine.subscribers := by
  rw [anew_eq _ _ _ accepted]
  rfl

theorem create_supplied (dialect : Dialect) (random other : RandomSource) (cyclesPerFrame : Int) :
    (create dialect random cyclesPerFrame).supplied other = create dialect other cyclesPerFrame := rfl

theorem restarted_supplied (machine : Machine) (rom : Option Rom) (random : RandomSource) :
    ({ machine.supplied random with rom := rom } : Machine).restarted =
      ({ machine with rom := rom } : Machine).restarted.supplied random := by
  simp only [restarted, supplied, Core.supplied, powerOn]
  rfl

theorem anew_supplied {dialect : Dialect} {random other : RandomSource} {cyclesPerFrame : Int}
    {rom : Option Rom} (accepted : ∀ image ∈ rom, image.Accepted) :
    anew dialect other cyclesPerFrame rom =
      (anew dialect random cyclesPerFrame rom).supplied other := by
  have source := restarted_supplied (create dialect random cyclesPerFrame) rom other
  rw [create_supplied] at source
  rw [anew_eq _ _ _ accepted, anew_eq _ _ _ accepted]
  exact source

theorem toneNotes_powerOn :
    machine.powerOn.toneNotes = if machine.toneOn then machine.notes (.sound false) else [] := by
  have silent : machine.powerOn.core.timers.sounding = false := rfl
  have told : machine.powerOn.toneOn = machine.toneOn := rfl
  rw [toneNotes, silent, told]
  cases machine.toneOn <;> rfl

/-- An operation has left a new machine with a program image in place of this one, and made these
records. -/
structure StartsAnew (machine : Machine) (rom : Option Rom) (records : List Journal.Record)
    (outcome : Outcome Machine Unit) : Prop where
  succeeds : outcome.result = .ok ()
  state : outcome.state =
    (anew machine.dialect machine.core.random machine.cyclesPerFrame rom).equipped
      machine.tracing machine.haltOnInvalid machine.subscribers
  /-- The supply is not rewound. -/
  random : outcome.state.core.random = machine.core.random
  /-- Those who wait for the tone are told once that it is off if they were told last that it is on,
  and nothing otherwise. -/
  effects : outcome.effects =
    (if machine.toneOn then machine.notes (.sound false) else []) ++ records.map .recorded
  /-- Whatever the switches are set to and whatever subscribers do, it cannot be told from a new
  machine that is supplied with the same random bytes. -/
  conduct : ∀ random, machine.core.random.SameAhead random →
    ∀ tracing haltOnInvalid subscribers commands command,
      (((outcome.state.equipped tracing haltOnInvalid subscribers).run commands).obey
        command).Related Alike
      ((((anew machine.dialect random machine.cyclesPerFrame rom).equipped tracing haltOnInvalid
        subscribers).run commands).obey command)

theorem startsAnew (machine : Machine) {rom : Option Rom} (accepted : ∀ image ∈ rom, image.Accepted)
    (records : List Journal.Record) :
    machine.StartsAnew rom records
      ⟨.ok (), ({ machine with rom := rom } : Machine).restarted,
        machine.powerOn.toneNotes ++ records.map .recorded⟩ where
  succeeds := rfl
  state := restarted_eq accepted
  random := rfl
  effects := congrArg (· ++ _) toneNotes_powerOn
  conduct random same tracing haltOnInvalid subscribers commands command := by
    refine obey_alike (run_alike ⟨random, ?_, ?_⟩ commands) command
    · exact same
    · dsimp only
      rw [restarted_eq accepted, anew_supplied accepted]
      rfl

/-- Resets and loads leave nothing of what a machine did before. -/
structure ForgetsPast (machine : Machine) : Prop where
  reset : machine.StartsAnew machine.rom [Journal.info "Emulator reset"] machine.reset
  load : ∀ rom : { rom : Rom // rom.Accepted },
    machine.StartsAnew (some rom.val)
      [Journal.info "Emulator reset", Journal.info ("Loaded ROM " ++ rom.val.name ++ " (" ++
        toString rom.val.data.size ++ " bytes)")]
      (machine.load rom.val)

theorem Regular.forgetsPast (regular : machine.Regular) : machine.ForgetsPast where
  reset := by
    rw [reset_eq regular.passive regular.accepted]
    exact machine.startsAnew regular.accepted _
  load rom := by
    have accepted : ∀ image ∈ some rom.val, image.Accepted := by
      rintro _ ⟨⟩
      exact rom.property
    rw [load_eq regular.passive rom.property, List.append_assoc]
    exact machine.startsAnew accepted _

/-- Wherever commands have led a machine, a reset or a load makes a new one of it. -/
theorem run_forgetsPast (dialect : Dialect) (random : RandomSource) (cyclesPerFrame : Int)
    (commands : List Command) :
    ((create dialect random cyclesPerFrame).run commands).ForgetsPast :=
  ((create_regular dialect random cyclesPerFrame).run commands).forgetsPast

end Chip8.Machine
