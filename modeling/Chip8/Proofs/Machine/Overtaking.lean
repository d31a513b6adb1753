import Chip8.Proofs.Machine.Hearing

/-! A listener that lets time pass when it is told that the tone goes on may thereby turn it off. All
are told that at once, and those behind the listener are told only then that the tone went on. -/

namespace Chip8

open Operation

namespace Machine

variable {machine : Machine}

def soundNotes (subscribers : List Subscriber) (active : Bool) : List Effect :=
  subscribers.map fun subscriber => .notified subscriber.label (.sound active)

end Machine

namespace Action

variable {machine : Machine} {replaced : List Registers}

theorem syncSound_upToDate (notify : Notifier)
    (upToDate : machine.core.timers.sounding = machine.toneOn) :
    syncSound notify ⟨machine, replaced⟩ = ⟨.ok (), ⟨machine, replaced⟩, []⟩ := by
  refine (bind_of_silent (get_at _)).trans ?_
  simp only [upToDate, if_true]
  rfl

theorem syncSound_outdated (notify : Notifier)
    (outdated : machine.core.timers.sounding ≠ machine.toneOn) :
    syncSound notify ⟨machine, replaced⟩ =
      notify (.sound machine.core.timers.sounding) ⟨machine.synced, replaced⟩ := by
  refine (bind_of_silent (get_at _)).trans ?_
  simp only [outdated, if_false]
  exact bind_of_silent (modify_at _ _)

theorem tell_ticker (notify : Notifier) {active : Bool} {label : Int} {after : Activity}
    {effects : List Effect}
    (ticked : tick notify ⟨machine, replaced⟩ = ⟨.ok (), after, effects⟩) :
    tell notify (.sound active) ⟨"sound", label, .tick⟩ ⟨machine, replaced⟩ =
      ⟨.ok (), after, .notified label (.sound active) :: effects⟩ :=
  (bind_of_silent (get_at _)).trans (bind_of_ok (leave_at _ _) ticked)

section

variable {front back : List Subscriber} {label : Int}
  (frontIdle : ∀ subscriber ∈ front, subscriber.reaction = .ignore)
  (backIdle : ∀ subscriber ∈ back, subscriber.reaction = .ignore)

include frontIdle backIdle

/-- Those in front of a listener that ticks are told before it, and those behind it when it has
ticked. -/
theorem tellAll_ticker (notify : Notifier) {active : Bool} {after : Activity} {effects : List Effect}
    (ticked : tick notify ⟨machine, replaced⟩ = ⟨.ok (), after, effects⟩) :
    tellAll notify (.sound active) (front ++ ⟨"sound", label, .tick⟩ :: back) ⟨machine, replaced⟩ =
      ⟨.ok (), after, Machine.soundNotes front active ++
        (.notified label (.sound active) :: effects ++ Machine.soundNotes back active)⟩ := by
  rw [tellAll_append]
  refine bind_of_ok (tellAll_ignoring notify _ _ frontIdle) ?_
  exact bind_of_ok (tell_ticker notify ticked) (tellAll_ignoring notify _ _ backIdle)

end

theorem notify_succ (depth : Nat) (event : Event) (activity : Activity) :
    Action.notify (depth + 1) event activity =
      tellAll (Action.notify depth) event (activity.machine.subscribersOf event.name) activity :=
  bind_of_silent (get_at _)

theorem tick_at (notify : Notifier) :
    tick notify ⟨machine, replaced⟩ = syncSound notify ⟨machine.elapsed, replaced⟩ :=
  bind_of_silent (modify_at _ _)

end Action

namespace Machine

/-- The tone is about to be turned on for the time of one tick, and one of those who wait for it lets
that time pass. -/
structure Chirps (front : List Subscriber) (label : Int) (back : List Subscriber)
    (machine : Machine) : Prop where
  waiting : machine.subscribersOf "sound" = front ++ ⟨"sound", label, .tick⟩ :: back
  frontIdle : ∀ subscriber ∈ front, subscriber.reaction = .ignore
  backIdle : ∀ subscriber ∈ back, subscriber.reaction = .ignore
  off : machine.toneOn = false
  short : machine.core.timers.sound = 1

theorem Chirps.silent {machine : Machine} {front back : List Subscriber} {label : Int}
    (chirps : machine.Chirps front label back) :
    machine.synced.elapsed.synced.elapsed.core.timers.sounding = false := by
  change machine.core.timers.tick.tick.sounding = false
  rw [Timers.sounding, Timers.tick, Timers.tick, chirps.short]
  rfl

/-- What is told then: that the tone is off comes before those behind are told that it is on. -/
def chirpNotes (front : List Subscriber) (label : Int) (back : List Subscriber) : List Effect :=
  soundNotes front true ++ (.notified label (.sound true) ::
    soundNotes (front ++ ⟨"sound", label, .tick⟩ :: back) false ++ soundNotes back true)

theorem Chirps.syncSound {machine : Machine} {front back : List Subscriber} {label : Int}
    (chirps : machine.Chirps front label back) (depth : Nat) (replaced : List Registers) :
    Action.syncSound (Action.notify (depth + 2)) ⟨machine, replaced⟩ =
      ⟨.ok (), ⟨machine.synced.elapsed.synced.elapsed, replaced⟩, chirpNotes front label back⟩ := by
  have on : machine.core.timers.sounding = true := by
    rw [Timers.sounding, chirps.short]
    rfl
  have ended : machine.core.timers.tick.sounding = false := by
    rw [Timers.sounding, Timers.tick, chirps.short]
    rfl
  have quiet : Action.tick (Action.notify depth) ⟨machine.synced.elapsed.synced, replaced⟩ =
      ⟨.ok (), ⟨machine.synced.elapsed.synced.elapsed, replaced⟩, []⟩ := by
    rw [Action.tick_at]
    exact Action.syncSound_upToDate _ (chirps.silent.trans ended.symm)
  have silenced : Action.tellAll (Action.notify depth) (.sound false)
      (front ++ ⟨"sound", label, .tick⟩ :: back) ⟨machine.synced.elapsed.synced, replaced⟩ =
      ⟨.ok (), ⟨machine.synced.elapsed.synced.elapsed, replaced⟩,
        soundNotes (front ++ ⟨"sound", label, .tick⟩ :: back) false⟩ := by
    have all : soundNotes (front ++ ⟨"sound", label, .tick⟩ :: back) false =
        soundNotes front false ++ (.notified label (.sound false) :: [] ++ soundNotes back false) :=
      List.map_append
    rw [all]
    exact Action.tellAll_ticker chirps.frontIdle chirps.backIdle _ quiet
  have turned : Action.tick (Action.notify (depth + 1)) ⟨machine.synced, replaced⟩ =
      ⟨.ok (), ⟨machine.synced.elapsed.synced.elapsed, replaced⟩,
        soundNotes (front ++ ⟨"sound", label, .tick⟩ :: back) false⟩ := by
    have outdated : machine.synced.elapsed.core.timers.sounding ≠ machine.synced.elapsed.toneOn := by
      change machine.core.timers.tick.sounding ≠ machine.core.timers.sounding
      rw [on, ended]
      exact Bool.false_ne_true
    have now : machine.synced.elapsed.core.timers.sounding = false := ended
    have waiting : machine.synced.elapsed.synced.subscribersOf "sound" = _ := chirps.waiting
    rw [Action.tick_at, Action.syncSound_outdated _ outdated, now, Action.notify_succ]
    exact waiting ▸ silenced
  have told : Action.tellAll (Action.notify (depth + 1)) (.sound true)
      (front ++ ⟨"sound", label, .tick⟩ :: back) ⟨machine.synced, replaced⟩ = _ :=
    Action.tellAll_ticker chirps.frontIdle chirps.backIdle _ turned
  have waiting : machine.synced.subscribersOf "sound" = _ := chirps.waiting
  have outdated : machine.core.timers.sounding ≠ machine.toneOn := by
    rw [on, chirps.off]
    decide
  rw [Action.syncSound_outdated _ outdated, on, Action.notify_succ]
  exact waiting ▸ told

theorem told_silent {machine : Machine} {core : Core} (silent : core.timers.sounding = machine.toneOn)
    (listing : Listing) :
    Action.syncSound (Action.notify nesting) ⟨(machine.withCore core.counted).noted listing, []⟩ =
      ⟨.ok (), ⟨(machine.withCore core.counted).noted listing, []⟩, []⟩ :=
  Action.syncSound_upToDate _ silent

/-- A cycle whose instruction succeeds, when all but those who wait for the tone only take note. -/
theorem step_sounding {machine after : Machine} {op : Opcode} {instruction : Instruction} {core : Core}
    {tone : List Effect} (running : machine.core.registers.halted = false)
    (ignored : ∀ name, name ≠ "sound" → machine.Ignored name)
    (read : machine.core.memory.readOpcode machine.core.registers.pc = .ok op)
    (known : Instruction.decode? op = some instruction)
    (executed : instruction.execute machine.dialect (machine.core.fetched op) = (core, none))
    (told : Action.syncSound (Action.notify nesting) ⟨(machine.withCore core.counted).noted
      (instruction.listing machine.core.registers.pc op), []⟩ = ⟨.ok (), ⟨after, []⟩, tone⟩)
    (same : after.subscribers = machine.subscribers) :
    machine.step.result = .ok () ∧
      machine.step.state = after.logged (instruction.listing machine.core.registers.pc op) ∧
      toneCalls machine.step.effects = toneCalls tone := by
  have begun : Action.notify nesting (.beforeCycle machine.core.registers.cycles) ⟨machine, []⟩ = _ :=
    Action.notify_ignored _ nesting (ignored "before_cycle" (by decide))
  have later (name : String) (other : name ≠ "sound") :
      (after.logged (instruction.listing machine.core.registers.pc op)).Ignored name :=
    (ignored name other).of_subscribers ((logged_subscribers _ _).trans same)
  have concluded := Action.conclude_told nesting told (later "instruction" (by decide))
    (later "after_cycle" (by decide))
  have work := Action.step_running running (Action.notify nesting)
    (bind_of_ok begun ((bind_of_silent (Action.execute_known read known executed)).trans concluded))
  rw [step, perform_of Action.step work]
  refine ⟨rfl, rfl, ?_⟩
  rw [toneCalls_append, toneCalls_append, toneCalls_append, toneCalls_append, toneCalls_logNotes,
    toneCalls_notes (fun _ same => by cases same), toneCalls_notes (fun _ same => by cases same),
    toneCalls_notes (fun _ same => by cases same)]
  simp

/-- A machine that runs a program and stands at a place of it in silence. All subscribers wait for the
tone. -/
structure Rigged (listeners : List Subscriber) (program : Array UInt8) (place : Nat)
    (machine : Machine) : Prop where
  subscribers : machine.subscribers = listeners
  waiting : ∀ listener ∈ listeners, listener.event = "sound"
  running : machine.core.registers.halted = false
  memory : machine.core.memory = .holding program
  counter : machine.core.registers.pc = (512 + place : Nat)
  timers : machine.core.timers = .stopped
  off : machine.toneOn = false

namespace Rigged

variable {listeners : List Subscriber} {program : Array UInt8} {place : Nat} {machine : Machine}

theorem ignored (rigged : Rigged listeners program place machine) (name : String)
    (other : name ≠ "sound") : machine.Ignored name := by
  intro subscriber member
  obtain ⟨known, named⟩ := List.mem_filter.mp member
  rw [rigged.subscribers] at known
  rw [rigged.waiting subscriber known] at named
  exact absurd (eq_of_beq named).symm other

theorem heardBy (rigged : Rigged listeners program place machine) :
    machine.subscribersOf "sound" = listeners := by
  rw [subscribersOf, rigged.subscribers, List.filter_eq_self]
  intro listener member
  rw [rigged.waiting listener member]
  rfl

theorem reads (rigged : Rigged listeners program place machine) (instruction : Instruction)
    (inside : place + 1 < 3584)
    (word : (program.getD place 0).toNat * 0x100 + (program.getD (place + 1) 0).toNat =
      instruction.word) :
    ∃ op, machine.core.memory.readOpcode machine.core.registers.pc = .ok op ∧
      Instruction.decode? op = some instruction := by
  have fetches := Core.fetches_holding rigged.memory inside rigged.counter
  obtain ⟨op, read, same⟩ := Core.fetches_iff.mp fetches
  exact ⟨op, read, Instruction.decode?_of_word (same.trans word)⟩

theorem load (rigged : Rigged listeners program place machine) (x : Reg) (byte : UInt8)
    (inside : place + 1 < 3584)
    (word : (program.getD place 0).toNat * 0x100 + (program.getD (place + 1) 0).toNat =
      (Instruction.load x byte).word) :
    Rigged listeners program (place + 2) machine.step.state ∧ machine.step.state.core.v x = byte ∧
      toneCalls machine.step.effects = [] := by
  obtain ⟨op, read, known⟩ := rigged.reads _ inside word
  have executed : (Instruction.load x byte).execute machine.dialect (machine.core.fetched op) =
      ((machine.core.fetched op).setV x byte, none) := rfl
  have silent : ((machine.core.fetched op).setV x byte).timers.sounding = machine.toneOn := by
    change machine.core.timers.sounding = _
    rw [rigged.timers, rigged.off]
    rfl
  obtain ⟨_, state, calls⟩ := step_sounding rigged.running rigged.ignored read known executed
    (told_silent silent _) rfl
  have core := (congrArg Machine.core state).trans (logged_core _ _)
  refine ⟨⟨?_, rigged.waiting, ?_, ?_, ?_, ?_, ?_⟩, ?_, calls⟩
  · rw [state, logged_subscribers]
    exact rigged.subscribers
  · rw [core]
    exact rigged.running
  · rw [core]
    exact rigged.memory
  · rw [core]
    change machine.core.registers.pc + 2 = _
    rw [rigged.counter]
    omega
  · rw [core]
    exact rigged.timers
  · rw [state, logged_eq]
    exact rigged.off
  · rw [core]
    exact ((machine.core.fetched op).v_setV x byte x).trans (if_pos rfl)

theorem sounds {front back : List Subscriber} {label : Int} (x : Reg)
    (rigged : Rigged (front ++ ⟨"sound", label, .tick⟩ :: back) program place machine)
    (frontIdle : ∀ subscriber ∈ front, subscriber.reaction = .ignore)
    (backIdle : ∀ subscriber ∈ back, subscriber.reaction = .ignore)
    (short : machine.core.v x = 1) (inside : place + 1 < 3584)
    (word : (program.getD place 0).toNat * 0x100 + (program.getD (place + 1) 0).toNat =
      (Instruction.setSound x).word) :
    machine.step.result = .ok () ∧ machine.step.state.core.timers.sounding = false ∧
      toneCalls machine.step.effects = toneCalls (chirpNotes front label back) := by
  obtain ⟨op, read, known⟩ := rigged.reads _ inside word
  have executed : (Instruction.setSound x).execute machine.dialect (machine.core.fetched op) =
      ({ machine.core.fetched op with
        timers := { machine.core.timers with sound := machine.core.v x } }, none) := rfl
  have chirps : Chirps front label back ((machine.withCore (Core.counted { machine.core.fetched op with
      timers := { machine.core.timers with sound := machine.core.v x } })).noted
        ((Instruction.setSound x).listing machine.core.registers.pc op)) :=
    ⟨rigged.heardBy, frontIdle, backIdle, rigged.off, short⟩
  obtain ⟨result, state, calls⟩ := step_sounding rigged.running rigged.ignored read known executed
    (chirps.syncSound 998 []) rfl
  refine ⟨result, ?_, calls⟩
  rw [state, logged_core]
  exact chirps.silent

end Rigged

end Machine

namespace Action

theorem reset_silent {machine : Machine} (off : machine.toneOn = false)
    (accepted : ∀ rom ∈ machine.rom, rom.Accepted) (notify : Notifier) (replaced : List Registers) :
    Action.reset notify ⟨machine, replaced⟩ =
      ⟨.ok (), ⟨machine.restarted, replaced ++ [machine.core.registers]⟩,
        [.recorded (Journal.info "Emulator reset")]⟩ := by
  have synced : machine.powerOn.synced = machine.powerOn := by
    have silent : machine.powerOn.core.timers.sounding = machine.powerOn.toneOn := off.symm
    rw [Machine.synced, silent]
  have told : syncSound notify ⟨machine.powerOn, replaced ++ [machine.core.registers]⟩ = _ :=
    syncSound_upToDate notify off.symm
  have loaded := reload_powerOn accepted (replaced ++ [machine.core.registers])
  rw [synced] at loaded
  refine (bind_of_silent (modify_at _ _)).trans ((bind_of_silent told).trans ?_)
  exact (bind_of_silent loaded).trans (leave_at _ _)

end Action

namespace Machine

variable {machine : Machine}

theorem Rigged.of_load (off : machine.toneOn = false)
    (waiting : ∀ listener ∈ machine.subscribers, listener.event = "sound")
    (rom : { rom : Rom // rom.Accepted }) :
    Rigged machine.subscribers rom.val.data 0 (machine.load rom.val).state ∧
      toneCalls (machine.load rom.val).effects = [] := by
  have known : ∀ other ∈ (machine.inserted rom.val).rom, other.Accepted := by
    intro other member
    cases member
    exact rom.property
  have silent : (machine.inserted rom.val).toneOn = false := off
  have reset := Action.reset_silent silent known (Action.notify nesting) []
  have work : Action.load (Action.notify nesting) rom.val ⟨machine, []⟩ = _ :=
    (bind_of_silent (modify_at _ _)).trans (bind_of_ok reset (leave_at _ _))
  rw [Machine.load, perform_of (fun notify => Action.load notify rom.val) work]
  exact ⟨⟨rfl, waiting, rfl, rfl, rfl, rfl, rfl⟩, rfl⟩

def chirp : { rom : Rom // rom.Accepted } :=
  ⟨⟨"", #[0x60, 0x01, 0xF0, 0x18]⟩, Rom.accepted_of_size (by decide) (by decide)⟩

/-- What leads to the instruction that turns the tone on. -/
def leadIn : List Command := [.load chirp, .step]

/-- A machine that has been led there, and what the next cycle tells. -/
structure Chirped (front : List Subscriber) (label : Int) (back : List Subscriber)
    (machine : Machine) : Prop where
  before : toneCalls (machine.effects leadIn) = []
  silent : (machine.run leadIn).core.timers.sounding = false
  succeeds : ((machine.run leadIn).obey .step).result = .ok ()
  ended : ((machine.run leadIn).obey .step).state.core.timers.sounding = false
  told : toneCalls ((machine.run leadIn).obey .step).effects =
    toneCalls (chirpNotes front label back)

theorem chirped {front back : List Subscriber} {label : Int}
    (subscribers : machine.subscribers = front ++ ⟨"sound", label, .tick⟩ :: back)
    (waiting : ∀ listener ∈ machine.subscribers, listener.event = "sound")
    (frontIdle : ∀ subscriber ∈ front, subscriber.reaction = .ignore)
    (backIdle : ∀ subscriber ∈ back, subscriber.reaction = .ignore)
    (off : machine.toneOn = false) : Chirped front label back machine := by
  obtain ⟨rigged, loading⟩ := Rigged.of_load off waiting chirp
  rw [subscribers] at rigged
  obtain ⟨next, value, stepping⟩ := rigged.load 0 1 (by decide) (by decide)
  obtain ⟨succeeds, ended, told⟩ := next.sounds 0 frontIdle backIdle value (by decide) (by decide)
  refine ⟨?_, ?_, succeeds, ended, told⟩
  · change toneCalls ((machine.load chirp.val).effects ++
      ((machine.load chirp.val).state.step.effects ++ [])) = []
    rw [toneCalls_append, toneCalls_append, loading, stepping]
    rfl
  · change (machine.load chirp.val).state.step.state.core.timers.sounding = false
    rw [next.timers]
    rfl

end Machine

end Chip8
