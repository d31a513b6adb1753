import Chip8.Instruction.Execution
import Chip8.Proofs.Hardware.Transfer

namespace Chip8

theorem Memory.isTarget_eq (target : Int) :
    (isProgram target && isProgram (target + 1)) = decide (0x200 ≤ target ∧ target ≤ 0xFFE) := by
  rw [Bool.eq_iff_iff, Bool.and_eq_true, isProgram_iff, isProgram_iff, decide_eq_true_iff]
  omega

theorem Dialect.span_le (dialect : Dialect) (x : Reg) : dialect.span x ≤ 16 := by
  unfold span
  split <;> omega

def Core.target (core : Core) (base : Address) : Int := (core.v 0).toNat + base.val

/-- An instruction ends in a fault. -/
def Instruction.Fails (dialect : Dialect) (core : Core) (fault : Fault) : Instruction → Prop
  | .ret => core.stack.depth = 0 ∧ fault = .emptyStack
  | .call _ => core.stack.depth = 16 ∧ fault = .stackOverflow 16
  | .jumpFrom base =>
      dialect.checkedJump = true ∧ ¬(0x200 ≤ core.target base ∧ core.target base ≤ 0xFFE) ∧
        fault = .outOfBounds (core.target base) .notTarget
  | .draw _ _ rows =>
      0x1000 < core.registers.i + rows.val ∧
        fault = .outOfBounds core.registers.i (.noSprite rows.val)
  | .decimal _ =>
      ¬(0x200 ≤ core.registers.i ∧ core.registers.i ≤ 0xFFD) ∧
        fault = .outOfBounds (Memory.barrier core.registers.i) .notProgram
  | .store x =>
      0 < dialect.span x ∧
        (core.registers.i < 0x200 ∨ 0x1000 < core.registers.i + dialect.span x) ∧
        fault = .outOfBounds (Memory.barrier core.registers.i) .notProgram
  | .restore x =>
      0 < dialect.span x ∧ 0x1000 < core.registers.i + dialect.span x ∧
        fault = .outOfBounds (max core.registers.i 0x1000) .unmapped
  | _ => False

namespace Core

variable {core after : Core} {dialect : Dialect} {failure : Failure}

def transferred (core : Core) (cells : Vector UInt8 4096) (v : Vector UInt8 16) : Core :=
  { core with
    memory := { core.memory with cells := cells }
    registers := { core.registers with v := v } }

/-- The cells that a failing instruction leaves. -/
def cellsLeft (core : Core) (bytes : List UInt8) : List UInt8 :=
  if 0x200 ≤ core.registers.i ∧ core.registers.i ≤ 0xFFF then
    core.memory.cells.toList.take core.registers.i.toNat ++
      bytes.take (0x1000 - core.registers.i.toNat)
  else core.memory.cells.toList

/-- The registers `V0` to `VF` that a failing instruction leaves. -/
def registersLeft (core : Core) : List UInt8 :=
  if core.registers.i < 0x1000 then
    core.memory.cells.toList.drop core.registers.i.toNat ++
      core.registers.v.toList.drop (0x1000 - core.registers.i.toNat)
  else core.registers.v.toList

theorem ret_failure :
    core.ret.2 = if core.stack.depth = 0 then some (.ofFault .emptyStack) else none := by
  unfold ret CallStack.ret
  by_cases empty : core.stack.depth = 0
  · simp [empty]
  · have live : 0 < core.stack.depth := Nat.pos_of_ne_zero empty
    simp [live, empty]

theorem call_failure (address : Address) :
    (core.call address).2 =
      if core.stack.depth = 16 then some (.ofFault (.stackOverflow 16)) else none := by
  have depth_le := core.stack.depth_le
  unfold call CallStack.call
  by_cases full : core.stack.depth = 16
  · simp [full]
  · have room : core.stack.depth < 16 := by omega
    simp [room, full]

theorem jumpFrom_apply (base : Address) :
    core.jumpFrom dialect base =
      if dialect.checkedJump then
        if 0x200 ≤ core.target base ∧ core.target base ≤ 0xFFE then
          (core.setPc (core.target base), none)
        else (core, some (.ofFault (.outOfBounds (core.target base) .notTarget)))
      else (core.setPc (core.target base % 4096), none) := by
  change (if dialect.checkedJump then
    if (Memory.isProgram (core.target base) && Memory.isProgram (core.target base + 1)) = true then
      (core.setPc (core.target base), none)
    else (core, some (Failure.ofFault (.outOfBounds (core.target base) .notTarget)))
    else (core.setPc (core.target base % 4096), none)) = _
  simp only [Memory.isTarget_eq, decide_eq_true_eq]

theorem jumpFrom_failure (base : Address) :
    (core.jumpFrom dialect base).2 =
      if dialect.checkedJump = true ∧ ¬(0x200 ≤ core.target base ∧ core.target base ≤ 0xFFE) then
        some (.ofFault (.outOfBounds (core.target base) .notTarget))
      else none := by
  rw [jumpFrom_apply]
  cases dialect.checkedJump with
  | false => simp
  | true =>
      by_cases inside : 0x200 ≤ core.target base ∧ core.target base ≤ 0xFFE
      · simp [inside]
      · simp only [inside, if_true, if_false, true_and, not_false_eq_true]

theorem drawAtIndex_failure (indexed : 0 ≤ core.registers.i) (x y : Reg) (rows : Fin 16) :
    (core.drawAtIndex x y rows).2 =
      if 0x1000 < core.registers.i + rows.val then
        some (.ofFault (.outOfBounds core.registers.i (.noSprite rows.val)))
      else none := by
  have short : 0 ≤ (rows.val : Int) ∧ (rows.val : Int) ≤ (Memory.maxSpriteLength : Int) := by
    simp only [Memory.maxSpriteLength]
    omega
  unfold drawAtIndex Memory.readSprite
  rw [if_pos short]
  by_cases beyond : 0x1000 < core.registers.i + rows.val
  · have noRoom : ¬(0 ≤ core.registers.i ∧ core.registers.i + rows.val ≤ (Memory.size : Int)) := by
      simp only [Memory.size]
      omega
    rw [if_neg noRoom, if_pos beyond]
    rfl
  · have room : 0 ≤ core.registers.i ∧ core.registers.i + rows.val ≤ (Memory.size : Int) := by
      simp only [Memory.size]
      omega
    rw [if_pos room, if_neg beyond]

theorem writeAtIndex_failure (bytes : List UInt8) :
    (core.writeAtIndex bytes).2 =
      if bytes = [] ∨ 512 ≤ core.registers.i ∧ core.registers.i + bytes.length ≤ 4096 then none
      else some (.ofFault (.outOfBounds (Memory.barrier core.registers.i) .notProgram)) := by
  change (core.memory.writeAll core.registers.i bytes).2.map Failure.ofFault = _
  rw [Memory.writeAll_fault, apply_ite (Option.map Failure.ofFault)]
  rfl

theorem readAtIndex_failure (indexed : 0 ≤ core.registers.i) (count : Nat) :
    (core.readAtIndex count).2 =
      if count = 0 ∨ core.registers.i + count ≤ 4096 then none
      else some (.ofFault (.outOfBounds (max core.registers.i 0x1000) .unmapped)) := by
  change (core.memory.readAll core.registers.i count).2.map Failure.ofFault = _
  obtain ⟨start, place⟩ := Int.eq_ofNat_of_zero_le indexed
  have sameEnd : (count = 0 ∨ start + count ≤ 4096) ↔
      (count = 0 ∨ (start : Int) + count ≤ 4096) := by omega
  have highest : ((max start 4096 : Nat) : Int) = max (start : Int) 4096 := by omega
  rw [place, Memory.readAll_fault, apply_ite (Option.map Failure.ofFault)]
  simp only [sameEnd, highest]
  rfl

theorem ret_failed (failed : core.ret = (after, some failure)) : after = core := by
  unfold ret at failed
  split at failed <;> cases failed
  rfl

theorem call_failed {target : Address} (failed : core.call target = (after, some failure)) :
    after = core := by
  unfold call at failed
  split at failed <;> cases failed
  rfl

theorem jumpFrom_failed {base : Address}
    (failed : core.jumpFrom dialect base = (after, some failure)) : after = core := by
  rw [jumpFrom_apply] at failed
  split at failed
  · split at failed <;> cases failed
    rfl
  · cases failed

theorem drawAtIndex_failed {x y : Reg} {rows : Fin 16}
    (failed : core.drawAtIndex x y rows = (after, some failure)) : after = core := by
  unfold drawAtIndex at failed
  split at failed <;> cases failed
  rfl

/-- A transfer to memory that fails leaves the bytes before the end of memory, and none if it does not
begin in the program. -/
theorem writeAtIndex_failed {bytes : List UInt8}
    (failed : core.writeAtIndex bytes = (after, some failure)) :
    ∃ cells, after = core.transferred cells core.registers.v ∧
      cells.toList = core.cellsLeft bytes := by
  have stopped := core.writeAtIndex_failure bytes
  rw [failed] at stopped
  have left : after = { core with
      memory := (core.memory.writeAll core.registers.i bytes).1 } :=
    (congrArg Prod.fst failed).symm
  rw [Memory.writeAll_eq] at left
  refine ⟨_, left, ?_⟩
  · split at stopped
    · cases stopped
    · -- Begun inside the program, a transfer that fails is too long for it.
      rename_i obstacle
      unfold cellsLeft
      by_cases inside : 0x200 ≤ core.registers.i ∧ core.registers.i ≤ 0xFFF
      · have place : core.registers.i = (core.registers.i.toNat : Int) := by omega
        rw [if_pos inside, place, Memory.toList_writeAll_of_long (by omega) (by omega)]
        rfl
      · rw [if_neg inside, Memory.writeAll_outside (by omega)]

/-- A transfer from memory that fails has loaded the bytes before the end of memory. -/
theorem readAtIndex_failed (indexed : 0 ≤ core.registers.i) {count : Nat} (few : count ≤ 16)
    (failed : core.readAtIndex count = (after, some failure)) :
    ∃ v, after = core.transferred core.memory.cells v ∧ v.toList = core.registersLeft := by
  have stopped := core.readAtIndex_failure indexed count
  rw [failed] at stopped
  obtain ⟨start, place⟩ := Int.eq_ofNat_of_zero_le indexed
  have bytes := Memory.readAll_bytes core.memory start count
  have left : after = { core with
      registers := core.registers.setAll 0 (core.memory.readAll core.registers.i count).1 } :=
    (congrArg Prod.fst failed).symm
  rw [place, bytes] at left
  split at stopped
  · cases stopped
  · rename_i beyond
    have long : 4096 < start + count := by omega
    have all : (core.memory.cells.toList.drop start).take count =
        core.memory.cells.toList.drop start := by
      apply List.take_of_length_le
      simp
      omega
    rw [all, Registers.setAll_eq] at left
    refine ⟨_, left, ?_⟩
    unfold registersLeft
    by_cases inside : core.registers.i < 0x1000
    · rw [if_pos inside, Registers.toList_setAll_zero (by simp; omega), place]
      simp
    · have nothing : core.memory.cells.toList.drop start = [] :=
        List.drop_eq_nil_of_le (by simp; omega)
      rw [if_neg inside, nothing]
      rfl

end Core

namespace Instruction

variable {dialect : Dialect} {core after : Core} {failure : Failure}

theorem fails_iff_of_eq {instruction : Instruction} {condition : Prop} [Decidable condition]
    {fault : Fault}
    (outcome : (instruction.execute dialect core).2 =
      if condition then some (.ofFault fault) else none)
    (table : ∀ other, instruction.Fails dialect core other ↔ condition ∧ other = fault) :
    (instruction.execute dialect core).2 = some failure ↔
      ∃ other, instruction.Fails dialect core other ∧ failure = .ofFault other := by
  simp only [outcome, table]
  by_cases holds : condition
  · simp [holds, eq_comm]
  · simp [holds]

theorem fails_iff_of_none {instruction : Instruction}
    (outcome : (instruction.execute dialect core).2 = none)
    (table : ∀ other, ¬instruction.Fails dialect core other) :
    (instruction.execute dialect core).2 = some failure ↔
      ∃ other, instruction.Fails dialect core other ∧ failure = .ofFault other := by
  simp [outcome, table]

theorem execute_fails_iff (instruction : Instruction) (dialect : Dialect)
    (indexed : 0 ≤ core.registers.i) (failure : Failure) :
    (instruction.execute dialect core).2 = some failure ↔
      ∃ fault, instruction.Fails dialect core fault ∧ failure = .ofFault fault := by
  cases instruction with
  | ret => exact fails_iff_of_eq Core.ret_failure fun _ => Iff.rfl
  | call target => exact fails_iff_of_eq (Core.call_failure target) fun _ => Iff.rfl
  | jumpFrom base =>
      refine fails_iff_of_eq (Core.jumpFrom_failure base) fun other => ?_
      rw [and_assoc]
      rfl
  | draw x y rows => exact fails_iff_of_eq (Core.drawAtIndex_failure indexed x y rows) fun _ => Iff.rfl
  | decimal x =>
      have outcome := core.writeAtIndex_failure (decimalDigits (core.v x))
      rw [← ite_not] at outcome
      refine fails_iff_of_eq outcome fun other => and_congr_left fun _ => not_congr ?_
      simp only [decimalDigits, List.length_cons, List.length_nil]
      simp
      omega
  | store x =>
      have outcome := core.writeAtIndex_failure (core.registers.v.toList.take (dialect.span x))
      have few := dialect.span_le x
      rw [← ite_not] at outcome
      refine fails_iff_of_eq outcome fun other => ?_
      rw [Fails, ← and_assoc]
      refine and_congr_left fun _ => ?_
      simp
      omega
  | restore x =>
      have outcome := core.readAtIndex_failure indexed (dialect.span x)
      rw [← ite_not] at outcome
      refine fails_iff_of_eq outcome fun other => ?_
      rw [Fails, ← and_assoc]
      refine and_congr_left fun _ => ?_
      omega
  | _ => exact fails_iff_of_none rfl fun _ => id

theorem not_fails_invalid {instruction : Instruction} (word : Int) :
    ¬instruction.Fails dialect core (.invalidOpcode word) := by
  cases instruction <;> simp [Fails]

/-- The cells that a failing instruction leaves. -/
def cellsLeft (dialect : Dialect) (core : Core) : Instruction → List UInt8
  | .decimal x => core.cellsLeft (decimalDigits (core.v x))
  | .store x => core.cellsLeft (core.registers.v.toList.take (dialect.span x))
  | _ => core.memory.cells.toList

def registersLeft (core : Core) : Instruction → List UInt8
  | .restore _ => core.registersLeft
  | _ => core.registers.v.toList

theorem execute_failed (indexed : 0 ≤ core.registers.i) {instruction : Instruction}
    (failed : instruction.execute dialect core = (after, some failure)) :
    ∃ cells v, after = core.transferred cells v ∧
      cells.toList = instruction.cellsLeft dialect core ∧
      v.toList = instruction.registersLeft core := by
  have unchanged (same : after = core)
      (noCells : instruction.cellsLeft dialect core = core.memory.cells.toList)
      (noRegisters : instruction.registersLeft core = core.registers.v.toList) :
      ∃ cells v, after = core.transferred cells v ∧
        cells.toList = instruction.cellsLeft dialect core ∧
        v.toList = instruction.registersLeft core :=
    ⟨core.memory.cells, core.registers.v, same, noCells.symm, noRegisters.symm⟩
  cases instruction with
  | ret => exact unchanged (Core.ret_failed failed) rfl rfl
  | call target => exact unchanged (Core.call_failed failed) rfl rfl
  | jumpFrom base => exact unchanged (Core.jumpFrom_failed failed) rfl rfl
  | draw x y rows => exact unchanged (Core.drawAtIndex_failed failed) rfl rfl
  | decimal x =>
      have stopped : core.writeAtIndex (decimalDigits (core.v x)) = (after, some failure) := failed
      obtain ⟨cells, left, written⟩ := Core.writeAtIndex_failed stopped
      exact ⟨cells, _, left, written, rfl⟩
  | store x =>
      obtain ⟨cells, left, written⟩ := Core.writeAtIndex_failed failed
      exact ⟨cells, _, left, written, rfl⟩
  | restore x =>
      obtain ⟨v, left, loaded⟩ := Core.readAtIndex_failed indexed (dialect.span_le x) failed
      exact ⟨_, v, left, rfl, loaded⟩
  | _ => cases failed

end Instruction

end Chip8
