import Chip8.Proofs.Hardware.CallStack
import Chip8.Proofs.Hardware.Fetch
import Chip8.Proofs.Instruction.Parts
import Chip8.Proofs.Machine.Run

/-! The registers, the call stack, memory and the history of a machine stay within bounds. The bound
on the program counter rests on the return addresses, and these rest on the fetch: a call pushes the
address behind a word that was read. -/

namespace Chip8

/-- An address that a call may push. -/
def Returnable (address : UInt16) : Prop := 0x202 ≤ address.toNat ∧ address.toNat ≤ 0x1000

/-- The index, the program counter and the call stack are as instructions leave them. -/
structure Core.InBounds (core : Core) : Prop where
  index : 0 ≤ core.registers.i ∧ core.registers.i ≤ 0xFFFF
  counter : 0 ≤ core.registers.pc ∧ core.registers.pc ≤ 0x1002
  tidy : core.stack.Tidy
  returns : ∀ address ∈ core.stack.toList, Returnable address

namespace CallStack

variable {stack after : CallStack}

theorem call_returnable (returns : ∀ address ∈ stack.toList, Returnable address) {pc : Int}
    (fetched : 0x202 ≤ pc ∧ pc ≤ 0x1000) (called : stack.call pc = .ok after) :
    ∀ address ∈ after.toList, Returnable address := by
  intro address member
  rw [toList_call called] at member
  rcases List.mem_append.mp member with old | new
  · exact returns address old
  · -- The new address is that behind a fetched word, and so has no bits to lose.
    have pushed := Numeral.lowWord_toNat pc
    rw [List.mem_singleton.mp new]
    constructor <;> omega

theorem ret_returnable (returns : ∀ address ∈ stack.toList, Returnable address) {address : UInt16}
    (returned : stack.ret = .ok (address, after)) :
    Returnable address ∧ ∀ other ∈ after.toList, Returnable other := by
  rw [toList_ret returned] at returns
  constructor
  · exact returns address (by simp)
  · intro other member
    exact returns other (by simp [member])

end CallStack

namespace Instruction

variable {core : Core}

theorem indexAfter_bounds (bounds : core.InBounds) (instruction : Instruction) :
    0 ≤ instruction.indexAfter core ∧ instruction.indexAfter core ≤ 0xFFFF := by
  have index := bounds.index
  cases instruction with
  | setIndex target =>
      have bound := target.isLt
      simp only [indexAfter]
      omega
  | addIndex x =>
      simp only [indexAfter]
      omega
  | glyph x =>
      have bound := (core.keyOf x).isLt
      simp only [indexAfter, Memory.fontAddress, Memory.fontStart, Memory.glyphSize]
      omega
  | _ => exact index

theorem counterAfter_bounds (bounds : core.InBounds) (dialect : Dialect)
    (fetched : 0x202 ≤ core.registers.pc ∧ core.registers.pc ≤ 0x1000) (instruction : Instruction) :
    0 ≤ instruction.counterAfter dialect core ∧ instruction.counterAfter dialect core ≤ 0x1002 := by
  have passed : 0 ≤ core.registers.pc ∧ core.registers.pc ≤ 0x1002 := by omega
  cases instruction with
  | ret =>
      simp only [counterAfter]
      cases returned : core.stack.ret with
      | error fault => exact passed
      | ok popped =>
          obtain ⟨address, stack⟩ := popped
          have back := (CallStack.ret_returnable bounds.returns returned).1
          unfold Returnable at back
          dsimp only
          omega
  | jump target =>
      have bound := target.isLt
      simp only [counterAfter]
      omega
  | call target =>
      have bound := target.isLt
      simp only [counterAfter]
      split <;> omega
  | skip condition =>
      -- A skip in the last word of memory takes the counter furthest.
      simp only [counterAfter]
      split <;> omega
  | jumpFrom base =>
      simp only [counterAfter]
      split
      · split <;> omega
      · omega
  | awaitKey x =>
      simp only [counterAfter]
      split <;> omega
  | _ => exact passed

theorem stackAfter_bounds (bounds : core.InBounds)
    (fetched : 0x202 ≤ core.registers.pc ∧ core.registers.pc ≤ 0x1000) (instruction : Instruction) :
    (instruction.stackAfter core).Tidy ∧
      ∀ address ∈ (instruction.stackAfter core).toList, Returnable address := by
  cases instruction with
  | ret =>
      simp only [stackAfter]
      cases returned : core.stack.ret with
      | error fault => exact ⟨bounds.tidy, bounds.returns⟩
      | ok popped =>
          obtain ⟨address, stack⟩ := popped
          exact ⟨CallStack.ret_tidy bounds.tidy returned,
            (CallStack.ret_returnable bounds.returns returned).2⟩
  | call target =>
      simp only [stackAfter]
      cases called : core.stack.call core.registers.pc with
      | error fault => exact ⟨bounds.tidy, bounds.returns⟩
      | ok stack =>
          exact ⟨CallStack.call_tidy bounds.tidy called,
            CallStack.call_returnable bounds.returns fetched called⟩
  | _ => exact ⟨bounds.tidy, bounds.returns⟩

theorem execute_inBounds (bounds : core.InBounds) (dialect : Dialect)
    (fetched : 0x202 ≤ core.registers.pc ∧ core.registers.pc ≤ 0x1000) (instruction : Instruction) :
    (instruction.execute dialect core).1.InBounds := by
  have index := instruction.indexAfter_bounds bounds
  have counter := instruction.counterAfter_bounds bounds dialect fetched
  obtain ⟨tidy, returns⟩ := instruction.stackAfter_bounds bounds fetched
  rw [← execute_index dialect] at index
  rw [← execute_counter] at counter
  rw [← execute_stack dialect] at tidy returns
  exact ⟨index, counter, tidy, returns⟩

end Instruction

namespace Core

variable {core : Core} {op : Opcode}

theorem fetched_counter (read : core.memory.readOpcode core.registers.pc = .ok op) :
    0x202 ≤ (core.fetched op).registers.pc ∧ (core.fetched op).registers.pc ≤ 0x1000 := by
  have inside := Memory.readOpcode_inside read
  have past : (core.fetched op).registers.pc = core.registers.pc + 2 := rfl
  omega

theorem fetched_inBounds (bounds : core.InBounds)
    (read : core.memory.readOpcode core.registers.pc = .ok op) : (core.fetched op).InBounds := by
  have counter := fetched_counter read
  exact { bounds with counter := by omega }

theorem executed_inBounds (bounds : core.InBounds)
    (read : core.memory.readOpcode core.registers.pc = .ok op) {dialect : Dialect}
    {instruction : Instruction} {after : Core} {failure : Option Failure}
    (executed : instruction.execute dialect (core.fetched op) = (after, failure)) :
    after.InBounds ∧ after.surroundings = (core.fetched op).surroundings := by
  have within := instruction.execute_inBounds (fetched_inBounds bounds read) dialect
    (fetched_counter read)
  have around := instruction.execute_surroundings dialect (core.fetched op)
  rw [executed] at within around
  exact ⟨within, around⟩

theorem powerOn_inBounds (random : RandomSource) : (powerOn random).InBounds where
  index := (by decide : 0 ≤ Registers.powerOn.i ∧ Registers.powerOn.i ≤ 0xFFFF)
  counter := (by decide : 0 ≤ Registers.powerOn.pc ∧ Registers.powerOn.pc ≤ 0x1002)
  tidy := CallStack.empty_tidy
  returns := by
    intro address member
    cases member

end Core

namespace Machine

variable {machine : Machine}

def programLength (machine : Machine) : Nat := (machine.rom.map (·.data.size)).getD 0

theorem programSize_image (machine : Machine) :
    machine.image.programSize = machine.programLength := by
  unfold image programLength
  cases machine.rom with
  | none => rfl
  | some rom => rfl

/-- The parts of a machine that can be out of bounds are within them. -/
structure Bounded (machine : Machine) : Prop where
  core : machine.core.InBounds
  loaded : machine.core.memory.programSize = machine.programLength
  logged : machine.traceLog.toList.length ≤ TraceLog.capacity
  counted : machine.lastInstruction = none ↔ machine.core.registers.cycles = 0

theorem Bounded.cycle (bounded : machine.Bounded) {outcome : Outcome Machine Unit}
    (cycle : machine.Cycle outcome) : outcome.state.Bounded := by
  cases cycle with
  | idle => exact bounded
  | unread => exact bounded
  | unknown running read foreign =>
      exact { bounded with core := { Core.fetched_inBounds bounded.core read with } }
  | @failed op instruction core failure running read known executed =>
      obtain ⟨within, around⟩ := Core.executed_inBounds bounded.core read executed
      have cycles : core.registers.cycles = machine.core.registers.cycles :=
        congrArg Surroundings.cycles around
      have size : core.memory.programSize = machine.core.memory.programSize :=
        congrArg Surroundings.programSize around
      have counted : machine.lastInstruction = none ↔ core.registers.cycles = 0 := by
        rw [cycles]
        exact bounded.counted
      exact ⟨within, size.trans bounded.loaded, bounded.logged, counted⟩
  | @done op instruction core running read known executed =>
      obtain ⟨within, around⟩ := Core.executed_inBounds bounded.core read executed
      have size : core.memory.programSize = machine.core.memory.programSize :=
        congrArg Surroundings.programSize around
      refine ⟨?_, ?_, ?_, ?_⟩
      · rw [completed_core]
        exact { within with }
      · unfold programLength
        rw [completed_core, completed_rom]
        exact size.trans bounded.loaded
      · exact length_traceLog_logged (machine.settled core _) bounded.logged _
      · rw [completed_core, completed_lastInstruction]
        simp [Core.counted]

theorem restarted_bounded (machine : Machine) : machine.restarted.Bounded := by
  have loaded : machine.restarted.core.memory.programSize = machine.restarted.programLength :=
    programSize_image machine
  have core : machine.restarted.core.InBounds := by
    have fresh := Core.powerOn_inBounds machine.core.random
    exact ⟨fresh.index, fresh.counter, fresh.tidy, fresh.returns⟩
  exact ⟨core, loaded, Nat.zero_le _, fun _ => rfl, fun _ => rfl⟩

theorem bounded_kept : Kept Bounded where
  cycle _ bounded cycle := bounded.cycle cycle
  tick bounded := { bounded with core := { bounded.core with } }
  restart {machine} rom _ _ := restarted_bounded { machine with rom := rom }
  halt bounded := { bounded with core := { bounded.core with } }
  input _ bounded := { bounded with core := { bounded.core with } }
  aside _ _ _ _ bounded _ := { bounded with }

theorem create_bounded (dialect : Dialect) (random : RandomSource) (cyclesPerFrame : Int) :
    (create dialect random cyclesPerFrame).Bounded where
  core := Core.powerOn_inBounds random
  loaded := rfl
  logged := Nat.zero_le _
  counted := ⟨fun _ => rfl, fun _ => rfl⟩

theorem Reached.bounded (reached : machine.Reached) : machine.Bounded :=
  bounded_kept.reached create_bounded reached

/-- Everything that a machine holds is in its range. -/
structure WellFormed (machine : Machine) : Prop where
  registers : ∀ x, (machine.core.v x).toNat ≤ 0xFF
  index : 0 ≤ machine.core.registers.i ∧ machine.core.registers.i ≤ 0xFFFF
  counter : 0 ≤ machine.core.registers.pc ∧ machine.core.registers.pc ≤ 0x1002
  depth : machine.core.stack.depth ≤ 16
  slots : machine.core.stack.slots.toList.length = 16
  free : ∀ k (bound : k < 16), machine.core.stack.depth ≤ k → machine.core.stack.slots[k] = 0
  live : ∀ k (bound : k < 16), k < machine.core.stack.depth →
    0x202 ≤ machine.core.stack.slots[k].toNat ∧ machine.core.stack.slots[k].toNat ≤ 0x1000
  /-- Behind a word that was read, a call pushes the program counter as it is. -/
  pushed : ∀ op stack, machine.core.memory.readOpcode machine.core.registers.pc = .ok op →
    machine.core.stack.call (machine.core.fetched op).registers.pc = .ok stack →
    ∃ address, stack.toList = machine.core.stack.toList ++ [address] ∧
      (address.toNat : Int) = machine.core.registers.pc + 2
  timers : machine.core.timers.delay.toNat ≤ 0xFF ∧ machine.core.timers.sound.toNat ≤ 0xFF
  screen : ∀ cell, (machine.core.screen.lit cell).toNat ≤ 1
  memory : ∀ a (bound : a < 4096), machine.core.memory.cells[a].toNat ≤ 0xFF
  loaded : machine.core.memory.programSize = (machine.rom.map (·.data.size)).getD 0
  logged : machine.traceLog.toList.length ≤ 2048
  counted : machine.lastInstruction = none ↔ machine.core.registers.cycles = 0

theorem Bounded.wellFormed (bounded : machine.Bounded) : machine.WellFormed where
  registers x := Nat.le_of_lt_succ (machine.core.v x).toNat_lt
  index := bounded.core.index
  counter := bounded.core.counter
  depth := machine.core.stack.depth_le
  slots := Vector.length_toList
  free := bounded.core.tidy
  live k bound live := by
    have member : machine.core.stack.slots[k] ∈ machine.core.stack.toList := by
      unfold CallStack.toList
      rw [List.mem_take_iff_getElem]
      exact ⟨k, by simp only [Vector.length_toList]; omega, by simp⟩
    exact bounded.core.returns _ member
  pushed op stack read called := by
    have counter := Core.fetched_counter read
    have word := Numeral.lowWord_toNat (machine.core.fetched op).registers.pc
    have past : (machine.core.fetched op).registers.pc = machine.core.registers.pc + 2 := rfl
    exact ⟨_, CallStack.toList_call called, by omega⟩
  timers := ⟨Nat.le_of_lt_succ machine.core.timers.delay.toNat_lt,
    Nat.le_of_lt_succ machine.core.timers.sound.toNat_lt⟩
  screen cell := Bool.toNat_le _
  memory a bound := Nat.le_of_lt_succ machine.core.memory.cells[a].toNat_lt
  loaded := bounded.loaded
  logged := bounded.logged
  counted := bounded.counted

/-- Whatever is asked of a machine, in whatever order, and whether it succeeds or fails, the machine
is well formed. -/
theorem run_wellFormed (dialect : Dialect) (random : RandomSource) (cyclesPerFrame : Int)
    (commands : List Command) :
    ((create dialect random cyclesPerFrame).run commands).WellFormed :=
  (bounded_kept.run (create_regular dialect random cyclesPerFrame)
    (create_bounded dialect random cyclesPerFrame) commands).wellFormed

end Machine

end Chip8
