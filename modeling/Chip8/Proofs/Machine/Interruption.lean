import Chip8.Proofs.Machine.Restart
import Chip8.Proofs.Machine.Standing
import Chip8.Proofs.Machine.Traceless

/-! A subscriber may reset the machine when a cycle is about to begin. The cycle then goes on at the
place that the machine had reached before. A word is read from there, out of the memory that the reset
has filled, and the instruction acts on the new computer, whose program counter is not past any word.
The registers of before keep the count of the cycle. Nobody sees this only if the instruction is a
traceless one and leads nowhere else. -/

namespace Chip8

open Operation

namespace Machine

variable (machine : Machine)

/-- The instruction that the program has at the place where the machine stands. -/
def abandoned : Option Instruction :=
  (machine.image.readOpcode machine.core.registers.pc).toOption.bind Instruction.decode?

/-- The computer after a cycle that was interrupted by a reset. -/
def interrupted : Core :=
  (machine.abandoned.map fun instruction =>
    (instruction.execute machine.dialect machine.restarted.core).1).getD machine.restarted.core

/-- A single subscriber waits for cycles to begin, and resets the machine. All others only take
note. -/
structure ResetAmid (machine : Machine) (label : Int) : Prop where
  resets : machine.subscribersOf "before_cycle" = [⟨"before_cycle", label, .reset⟩]
  others : ∀ subscriber ∈ machine.subscribers,
    subscriber.event ≠ "before_cycle" → subscriber.reaction = .ignore

variable {machine} {label : Int}

theorem ResetAmid.ignored (amid : machine.ResetAmid label) {name : String}
    (other : name ≠ "before_cycle") : machine.Ignored name := by
  intro subscriber member
  obtain ⟨known, named⟩ := List.mem_filter.mp member
  apply amid.others subscriber known
  rw [eq_of_beq named]
  exact other

theorem ResetAmid.of_subscribers {after : Machine} (amid : machine.ResetAmid label)
    (same : after.subscribers = machine.subscribers) : after.ResetAmid label where
  resets := by
    rw [subscribersOf, same]
    exact amid.resets
  others := by
    rw [same]
    exact amid.others

theorem restarted_fresh (machine : Machine) : machine.restarted.core.Fresh :=
  ⟨rfl, machine.image_reserved, rfl, rfl, rfl, rfl⟩

end Machine

namespace Action

variable {machine : Machine} {label : Int}

theorem notify_resetAmid (amid : machine.ResetAmid label)
    (accepted : ∀ rom ∈ machine.rom, rom.Accepted) (depth cycles : Nat) :
    ∃ effects, Action.notify (depth + 1) (.beforeCycle cycles) ⟨machine, []⟩ =
      ⟨.ok (), ⟨machine.restarted, [machine.core.registers]⟩, effects⟩ := by
  have reset := reset_ignored (amid.ignored (by decide)) accepted depth []
  have told : tell (Action.notify depth) (.beforeCycle cycles) ⟨"before_cycle", label, .reset⟩
      ⟨machine, []⟩ = _ :=
    (bind_of_silent (get_at _)).trans (bind_of_ok (leave_at _ _) reset)
  have all : tellAll (Action.notify depth) (.beforeCycle cycles)
      [⟨"before_cycle", label, .reset⟩] ⟨machine, []⟩ = _ := bind_of_ok told rfl
  rw [← amid.resets] at all
  exact ⟨_, (bind_of_silent (get_at _)).trans all⟩

/-- An instruction is read where the registers of before point, and acts on the machine as it is. -/
theorem execute_replaced (machine : Machine) (old : Registers) :
    ∃ result left, execute 0 ⟨machine, [old]⟩ = ⟨result, ⟨machine.withCore
      ((((machine.core.memory.readOpcode old.pc).toOption.bind Instruction.decode?).map
        fun instruction => (instruction.execute machine.dialect machine.core).1).getD machine.core),
      [left]⟩, []⟩ := by
  have before : (⟨machine, [old]⟩ : Activity).registersOf 0 = old := rfl
  have put (registers : Registers) : (⟨machine, [old]⟩ : Activity).setRegistersOf 0 registers =
      ⟨machine, [registers]⟩ := rfl
  simp only [execute, before, put]
  cases read : machine.core.memory.readOpcode old.pc with
  | error fault => exact ⟨_, _, rfl⟩
  | ok op =>
      dsimp only [Except.toOption, Option.bind_some]
      cases known : Instruction.decode? op with
      | none =>
          cases machine.haltOnInvalid <;> exact ⟨_, _, rfl⟩
      | some instruction =>
          dsimp only [Option.map_some, Option.getD_some]
          cases executed : instruction.execute machine.dialect machine.core with
          | mk core failure => cases failure <;> exact ⟨_, _, rfl⟩

theorem conclude_replaced (amid : machine.ResetAmid label) (old : Registers) (depth : Nat)
    (listing : Listing) :
    ∃ left effects, conclude (Action.notify depth) listing ⟨machine, [old]⟩ =
      ⟨.ok (), ⟨(machine.noted listing).synced.logged listing, [left]⟩, effects⟩ := by
  obtain ⟨left, counted⟩ : ∃ left, complete 0 listing ⟨machine, [old]⟩ =
      ⟨.ok (), ⟨machine.noted listing, [left]⟩, []⟩ := ⟨_, rfl⟩
  have notedAmid : (machine.noted listing).ResetAmid label := amid.of_subscribers rfl
  have loggedAmid : ((machine.noted listing).synced.logged listing).ResetAmid label :=
    amid.of_subscribers (Machine.logged_subscribers _ _)
  have executed := loggedAmid.ignored (show "instruction" ≠ "before_cycle" by decide)
  have ended := loggedAmid.ignored (show "after_cycle" ≠ "before_cycle" by decide)
  have tone := syncSound_ignored ⟨machine.noted listing, [left]⟩ depth
    (notedAmid.ignored (by decide))
  have news : Action.notify depth (.executed listing)
      ⟨(machine.noted listing).synced.logged listing, [left]⟩ = _ :=
    notify_ignored _ depth executed
  have last : Action.notify depth (.afterCycle left.cycles)
      ⟨(machine.noted listing).synced.logged listing, [left]⟩ = _ :=
    notify_ignored _ depth ended
  exact ⟨left, _, (bind_of_silent counted).trans (bind_of_ok tone (bind_of_ok (trace_at _ _ _)
    (bind_of_ok news ((bind_of_silent (get_at _)).trans last))))⟩

end Action

namespace Machine

variable {machine : Machine} {label : Int}

theorem step_interrupted (amid : machine.ResetAmid label)
    (accepted : ∀ rom ∈ machine.rom, rom.Accepted)
    (running : machine.core.registers.halted = false) :
    machine.step.state.core = machine.interrupted := by
  obtain ⟨news, told⟩ := Action.notify_resetAmid amid accepted 999 machine.core.registers.cycles
  obtain ⟨result, left, executed⟩ :=
    Action.execute_replaced machine.restarted machine.core.registers
  cases result with
  | error failure =>
      have work := Action.step_running running (Action.notify nesting)
        (bind_of_ok told (bind_of_error executed))
      rw [step, perform_of Action.step work]
      rfl
  | ok listing =>
      have resetAmid : (machine.restarted.withCore machine.interrupted).ResetAmid label :=
        amid.of_subscribers rfl
      obtain ⟨last, later, concluded⟩ := Action.conclude_replaced resetAmid left nesting listing
      have work := Action.step_running running (Action.notify nesting)
        (bind_of_ok told ((bind_of_silent executed).trans concluded))
      rw [step, perform_of Action.step work]
      exact logged_core _ _

/-- The machine that has just been reset, with these random bytes, and with nobody else there. -/
def alone (machine : Machine) (random : RandomSource) : Machine :=
  (machine.restarted.supplied random).equipped machine.tracing machine.haltOnInvalid []

theorem alone_passive (machine : Machine) (random : RandomSource) :
    (machine.alone random).Passive := by
  intro subscriber member
  cases member

/-- A computer that the reset machine can reach by itself: the one that the reset has left, or one that
a first cycle leaves, with whatever random bytes, nobody else being there to do anything. -/
def LeavesClean (machine : Machine) (core : Core) : Prop :=
  core.Like machine.restarted.core ∨
    ∃ random, core.Like (machine.alone random).step.state.core

/-- Program counters of a machine that has just been reset, or has then met the word zero, which is no
instruction, without being halted. -/
def Untouched (machine : Machine) (pc : Int) : Prop :=
  pc = 0x200 ∨
    pc = 0x202 ∧ machine.image.readOpcode 0x200 = .ok (.ofInt 0) ∧ machine.haltOnInvalid = false

/-- A first cycle counts, or the word it has read stays behind, unless that is zero. -/
theorem untouched_of_like {core : Core} {random : RandomSource}
    (opcode : core.registers.opcode = .ofInt 0) (cycles : core.registers.cycles = 0)
    (running : core.registers.halted = false)
    (same : core.Like (machine.alone random).step.state.core) :
    ∃ pc, machine.Untouched pc ∧ core.Like (machine.restarted.core.setPc pc) := by
  obtain ⟨source, same⟩ := same
  have cycle := step_cycle (machine.alone_passive random)
  generalize (machine.alone random).step = outcome at same cycle
  cases cycle with
  | idle halted => cases halted
  | unread => exact ⟨0x200, .inl rfl, source, same⟩
  | @unknown op _ read _ =>
      rw [same] at opcode running
      have zero : op = .ofInt 0 := opcode
      have goesOn : (machine.alone random).haltOnInvalid = false := running
      have stopped : (machine.alone random).core.stopped op (machine.alone random).haltOnInvalid =
          (machine.restarted.core.setPc 0x202).supplied random := by
        rw [zero, goesOn]
        rfl
      refine ⟨0x202, .inr ⟨rfl, zero ▸ read, goesOn⟩, source, ?_⟩
      rw [same, withCore, stopped]
      rfl
  | @failed op instruction after _ _ _ known executed =>
      have around := instruction.execute_surroundings (machine.alone random).dialect
        ((machine.alone random).core.fetched op)
      rw [executed] at around
      rw [same] at opcode
      have zero : op = .ofInt 0 := (congrArg Surroundings.opcode around).symm.trans opcode
      rw [zero] at known
      exact nomatch known.symm.trans Instruction.decode?_zero
  | done =>
      rw [same, completed_core] at cycles
      exact absurd cycles (Nat.succ_ne_zero _)

theorem leavesClean_iff {core : Core} (opcode : core.registers.opcode = .ofInt 0)
    (cycles : core.registers.cycles = 0) (running : core.registers.halted = false) :
    machine.LeavesClean core ↔
      ∃ pc, machine.Untouched pc ∧ core.Like (machine.restarted.core.setPc pc) := by
  constructor
  · intro clean
    rcases clean with same | ⟨random, same⟩
    · exact ⟨0x200, .inl rfl, same⟩
    · exact untouched_of_like opcode cycles running same
  · intro ⟨pc, untouched, same⟩
    rcases untouched with rfl | ⟨rfl, zero, goesOn⟩
    · exact .inl same
    · have step := step_eq (machine.alone_passive machine.core.random)
        (.unknown rfl zero Instruction.decode?_zero)
      have stopped : (machine.alone machine.core.random).step.state.core =
          machine.restarted.core.setPc 0x202 := by
        have unhalted : (machine.alone machine.core.random).haltOnInvalid = false := goesOn
        rw [step, withCore, unhalted]
        rfl
      refine .inr ⟨machine.core.random, ?_⟩
      rw [stopped]
      exact same

theorem execute_leavesClean_iff (machine : Machine) (instruction : Instruction) :
    machine.LeavesClean (instruction.execute machine.dialect machine.restarted.core).1 ↔
      instruction.Traceless machine.core.random ∧
        machine.Untouched (instruction.counterAfter machine.dialect machine.restarted.core) := by
  have spares := machine.restarted_fresh.spares_iff machine.dialect instruction
  have around := instruction.execute_surroundings machine.dialect machine.restarted.core
  rw [leavesClean_iff (congrArg Surroundings.opcode around) (congrArg Surroundings.cycles around)
    (congrArg Surroundings.halted around)]
  simp only [Instruction.execute_like_iff, spares]
  constructor
  · intro ⟨pc, untouched, traceless, counter⟩
    exact ⟨traceless, counter ▸ untouched⟩
  · intro ⟨traceless, untouched⟩
    exact ⟨_, untouched, traceless, rfl⟩

/-- What a reset amid a cycle does. It is clean only if nothing is read from where the machine has been,
or nothing comes of it. -/
structure Interrupted (machine : Machine) : Prop where
  core : machine.step.state.core = machine.interrupted
  clean : machine.LeavesClean machine.step.state.core ↔
    ∀ instruction, machine.abandoned = some instruction →
      instruction.Traceless machine.core.random ∧
        machine.Untouched (instruction.counterAfter machine.dialect machine.restarted.core)

theorem accepted_of_loaded {rom : Rom} (loaded : machine.rom = some rom) (accepted : rom.Accepted) :
    ∀ image ∈ machine.rom, image.Accepted := by
  intro image member
  rw [loaded] at member
  exact Option.some.inj member ▸ accepted

/-- A cycle at whose beginning the machine is reset executes what the abandoned place holds. -/
theorem reset_amid_cycle {rom : Rom} (loaded : machine.rom = some rom) (accepted : rom.Accepted)
    (running : machine.core.registers.halted = false) (amid : machine.ResetAmid label) :
    machine.Interrupted := by
  have core := step_interrupted amid (accepted_of_loaded loaded accepted) running
  refine ⟨core, ?_⟩
  rw [core, interrupted]
  cases machine.abandoned with
  | none => exact ⟨fun _ _ none => (nomatch none), fun _ => .inl (Core.like_refl _)⟩
  | some instruction =>
      refine (execute_leavesClean_iff machine instruction).trans ⟨?_, fun all => all _ rfl⟩
      intro clean other same
      exact Option.some.inj same ▸ clean

@[simp] theorem subscribe_core (machine : Machine) (subscriber : Subscriber) :
    (machine.subscribe subscriber).core = machine.core := rfl

@[simp] theorem subscribe_rom (machine : Machine) (subscriber : Subscriber) :
    (machine.subscribe subscriber).rom = machine.rom := rfl

@[simp] theorem subscribe_abandoned (machine : Machine) (subscriber : Subscriber) :
    (machine.subscribe subscriber).abandoned = machine.abandoned := rfl

theorem subscribe_resetAmid (quiet : machine.subscribers = []) (label : Int) :
    (machine.subscribe ⟨"before_cycle", label, .reset⟩).ResetAmid label := by
  have alone : (machine.subscribe ⟨"before_cycle", label, .reset⟩).subscribers =
      [⟨"before_cycle", label, .reset⟩] := by
    rw [subscribe, quiet]
    rfl
  refine ⟨?_, ?_⟩
  · rw [subscribersOf, alone]
    rfl
  · rw [alone]
    intro subscriber member other
    rw [List.mem_singleton.mp member] at other
    exact absurd rfl other

theorem Standing.abandons {rom : Rom} {place : Nat} {addresses : List Nat}
    (standing : Standing rom.data place addresses machine) (loaded : machine.rom = some rom)
    (inside : place + 1 < 3584) {instruction : Instruction}
    (word : (rom.data.getD place 0).toNat * 0x100 + (rom.data.getD (place + 1) 0).toNat =
      instruction.word) : machine.abandoned = some instruction := by
  have image : machine.image = machine.core.memory := by rw [image, loaded, standing.memory]
  have fetches := Core.fetches_holding standing.memory inside standing.counter
  obtain ⟨op, read, same⟩ := Core.fetches_iff.mp fetches
  rw [abandoned, image, read]
  exact Instruction.decode?_eq_some_iff.mpr (same.trans word)

theorem interrupted_load {x : Reg} {byte : UInt8} (abandons : machine.abandoned = some (.load x byte))
    (visible : byte ≠ 0) :
    machine.interrupted.v x = byte ∧ machine.interrupted.registers.pc = 0x200 ∧
      machine.interrupted.registers.cycles = 0 ∧ ¬ machine.LeavesClean machine.interrupted := by
  have loaded : machine.interrupted = (Instruction.execute machine.dialect machine.restarted.core
      (.load x byte)).1 := by
    rw [interrupted, abandons]
    rfl
  rw [loaded]
  refine ⟨?_, rfl, rfl, fun clean => ?_⟩
  · exact (machine.restarted.core.v_setV x byte x).trans (if_pos rfl)
  · exact visible ((execute_leavesClean_iff machine _).mp clean).1

/-- Two instructions that load 5 and 6 into the first two registers. -/
def twoLoads : { rom : Rom // rom.Accepted } :=
  ⟨⟨"", #[0x60, 0x05, 0x61, 0x06]⟩, Rom.accepted_of_size (by decide) (by decide)⟩

/-- A machine that has executed the first of them, and is reset when the next cycle begins. -/
def startled : Machine := (holding twoLoads).step.state.subscribe ⟨"before_cycle", 0, .reset⟩

theorem twoLoads_standing : Standing twoLoads.val.data 2 [] (holding twoLoads).step.state :=
  ((holding_standing twoLoads).load 0 5 (by decide) (by decide)).1

theorem twoLoads_rom : (holding twoLoads).step.state.rom = some twoLoads.val := by
  have passive := (holding_reached twoLoads).regular.passive
  rw [(step_cycle passive).rom, holding_eq]
  rfl

theorem twoLoads_quiet : (holding twoLoads).step.state.subscribers = [] := by
  have passive := (holding_reached twoLoads).regular.passive
  rw [step_subscribers passive, holding_subscribers]

theorem startled_rom : startled.rom = some twoLoads.val := by
  rw [startled, subscribe_rom, twoLoads_rom]

theorem startled_running : startled.core.registers.halted = false := by
  rw [startled, subscribe_core, twoLoads_standing.running]

theorem startled_amid : startled.ResetAmid 0 := subscribe_resetAmid twoLoads_quiet 0

theorem startled_abandoned : startled.abandoned = some (.load 1 6) := by
  rw [startled, subscribe_abandoned]
  exact twoLoads_standing.abandons twoLoads_rom (by decide) (by decide)

theorem startled_interrupted : startled.rom = some twoLoads.val ∧ twoLoads.val.Accepted ∧
    startled.core.registers.halted = false ∧ startled.ResetAmid 0 ∧ startled.Interrupted :=
  ⟨startled_rom, twoLoads.property, startled_running, startled_amid,
    reset_amid_cycle startled_rom twoLoads.property startled_running startled_amid⟩

/-- The second load is executed by the machine that the reset has left, which stays at the beginning of
the program and counts no cycle. -/
theorem startled_unclean :
    startled.step.state.core.v 1 = 6 ∧ startled.step.state.core.registers.pc = 0x200 ∧
      startled.step.state.core.registers.cycles = 0 ∧
      ¬ startled.LeavesClean startled.step.state.core := by
  have core := step_interrupted startled_amid (accepted_of_loaded startled_rom twoLoads.property)
    startled_running
  rw [core]
  exact interrupted_load startled_abandoned (by decide)

end Machine

end Chip8
