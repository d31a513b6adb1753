import Chip8.Proofs.Instruction.Scope
import Chip8.Proofs.Instruction.Words

namespace Chip8

namespace Core

variable (core : Core) (dialect : Dialect)

/-- The instruction of a word turns a core into another one, and does not fail. -/
def Performs (word : Nat) (after : Core) : Prop :=
  ∃ op instruction, op.word = word ∧ Instruction.decode? op = some instruction ∧
    instruction.execute dialect core = (after, none)

/-- A word puts a number into a register, and does not touch the flag unless it is that register. -/
def Puts (word : Nat) (x : Reg) (number : Nat) : Prop :=
  ∃ after, core.Performs dialect word after ∧ (after.v x).toNat = number ∧
    (x ≠ 15 → after.v 15 = core.v 15)

/-- A word sets the flag to a number. The register that it names, unless it is the flag, then holds
what is exact together with the flag. -/
def Flags (word : Nat) (x : Reg) (flag : Nat) (Exact : Nat → Nat → Prop) : Prop :=
  ∃ after, core.Performs dialect word after ∧ (after.v 15).toNat = flag ∧
    (x ≠ 15 → Exact (after.v x).toNat (after.v 15).toNat)

/-- What the words with the operands `x`, `y` and `byte` compute from the numbers in `Vx` and `Vy`. -/
structure Computes (x y : Reg) (byte : UInt8) : Prop where
  copy : core.Puts dialect (0x8000 + x.val * 0x100 + y.val * 0x10 + 0x0) x (core.v y).toNat
  or : core.Puts dialect (0x8000 + x.val * 0x100 + y.val * 0x10 + 0x1) x
    ((core.v x).toNat ||| (core.v y).toNat)
  and : core.Puts dialect (0x8000 + x.val * 0x100 + y.val * 0x10 + 0x2) x
    ((core.v x).toNat &&& (core.v y).toNat)
  xor : core.Puts dialect (0x8000 + x.val * 0x100 + y.val * 0x10 + 0x3) x
    ((core.v x).toNat ^^^ (core.v y).toNat)
  addByte : core.Puts dialect (0x7000 + x.val * 0x100 + byte.toNat) x
    (((core.v x).toNat + byte.toNat) % 256)
  /-- The flag is the carry. -/
  add : core.Flags dialect (0x8000 + x.val * 0x100 + y.val * 0x10 + 0x4) x
    (if 255 < (core.v x).toNat + (core.v y).toNat then 1 else 0)
    fun value flag => value + 256 * flag = (core.v x).toNat + (core.v y).toNat
  /-- The flag is the absence of a borrow. -/
  sub : core.Flags dialect (0x8000 + x.val * 0x100 + y.val * 0x10 + 0x5) x
    (if (core.v y).toNat ≤ (core.v x).toNat then 1 else 0)
    fun value flag => (value : Int) = (core.v x).toNat - (core.v y).toNat + 256 * (1 - flag)
  subFrom : core.Flags dialect (0x8000 + x.val * 0x100 + y.val * 0x10 + 0x7) x
    (if (core.v x).toNat ≤ (core.v y).toNat then 1 else 0)
    fun value flag => (value : Int) = (core.v y).toNat - (core.v x).toNat + 256 * (1 - flag)
  /-- The flag is the bit that falls out. -/
  shiftRight : core.Flags dialect (0x8000 + x.val * 0x100 + y.val * 0x10 + 0x6) x
    ((core.v x).toNat % 2)
    fun value flag => 2 * value + flag = (core.v x).toNat
  shiftLeft : core.Flags dialect (0x8000 + x.val * 0x100 + y.val * 0x10 + 0xE) x
    ((core.v x).toNat / 128)
    fun value flag => value + 256 * flag = 2 * (core.v x).toNat
  /-- A shift does the same whatever its second register is. -/
  shiftRightAlone : ∀ (z : Reg) (after : Core),
    core.Performs dialect (0x8000 + x.val * 0x100 + y.val * 0x10 + 0x6) after ↔
      core.Performs dialect (0x8000 + x.val * 0x100 + z.val * 0x10 + 0x6) after
  shiftLeftAlone : ∀ (z : Reg) (after : Core),
    core.Performs dialect (0x8000 + x.val * 0x100 + y.val * 0x10 + 0xE) after ↔
      core.Performs dialect (0x8000 + x.val * 0x100 + z.val * 0x10 + 0xE) after
  addIndex : ∃ after, core.Performs dialect (0xF000 + x.val * 0x100 + 0x1E) after ∧
    after.registers.i = (core.registers.i + (core.v x).toNat) % 65536 ∧ after.v 15 = core.v 15

variable {core dialect}

theorem performs_iff (instruction : Instruction) {after : Core} :
    core.Performs dialect instruction.word after ↔
      instruction.execute dialect core = (after, none) := by
  constructor
  · rintro ⟨op, other, word, known, executed⟩
    rw [Instruction.decode?_of_word word] at known
    cases known
    exact executed
  · intro executed
    exact ⟨instruction.opcode, instruction, rfl, instruction.decode?_opcode, executed⟩

variable {x y : Reg} {value : UInt8} {set : Bool}

theorem puts_of_setV (instruction : Instruction) {number : Nat}
    (executed : instruction.execute dialect core = (core.setV x value, none))
    (exact : value.toNat = number) : core.Puts dialect instruction.word x number := by
  refine ⟨_, (performs_iff _).mpr executed, ?_, ?_⟩
  · rw [v_setV, if_pos rfl, exact]
  · intro apart
    exact core.v_setV_ne value apart.symm

theorem puts_of_apply (op : Arith) {number : Nat}
    (applied : op.apply (core.v x) (core.v y) = (value, none))
    (exact : value.toNat = number) : core.Puts dialect (Instruction.arith op x y).word x number := by
  refine puts_of_setV _ ?_ exact
  simp only [Instruction.execute, compute, applied]

/-- The flag is written last, and so it is there even if it is the destination. -/
theorem flags_of_apply (op : Arith) {flag : Nat} {Exact : Nat → Nat → Prop}
    (applied : op.apply (core.v x) (core.v y) = (value, some set))
    (number : (if set then 1 else 0) = flag) (exact : Exact value.toNat flag) :
    core.Flags dialect (Instruction.arith op x y).word x flag Exact := by
  have executed : (Instruction.arith op x y).execute dialect core =
      ((core.setV x value).setFlag set, none) := by
    simp only [Instruction.execute, compute, applied]
  have flagged : (((core.setV x value).setFlag set).v 15).toNat = flag := by
    rw [setFlag, v_setV, if_pos rfl, ← number]
    cases set <;> rfl
  refine ⟨_, (performs_iff _).mpr executed, flagged, ?_⟩
  intro apart
  rw [flagged, v_setFlag_ne _ _ apart, v_setV, if_pos rfl]
  exact exact

theorem alone_of_execute (op : Arith) (x y z : Reg) {after : Core}
    (same : (Instruction.arith op x y).execute dialect core =
      (Instruction.arith op x z).execute dialect core) :
    core.Performs dialect (Instruction.arith op x y).word after ↔
      core.Performs dialect (Instruction.arith op x z).word after := by
  rw [performs_iff, performs_iff, same]

end Core

/-- The words that compute are exact, for any contents of the registers and any operands. -/
theorem Core.computes (core : Core) (dialect : Dialect) (x y : Reg) (byte : UInt8) :
    core.Computes dialect x y byte := by
  have boundX := (core.v x).toNat_lt
  have boundY := (core.v y).toNat_lt
  exact {
    copy := puts_of_apply .copy rfl rfl
    or := puts_of_apply .or rfl (UInt8.toNat_or _ _)
    and := puts_of_apply .and rfl (UInt8.toNat_and _ _)
    xor := puts_of_apply .xor rfl (UInt8.toNat_xor _ _)
    addByte := puts_of_setV (.addByte x byte) rfl (UInt8.toNat_add _ _)
    add := by
      refine flags_of_apply .add rfl (by simp) ?_
      rw [UInt8.toNat_add]
      split <;> omega
    sub := by
      refine flags_of_apply .sub rfl (by simp [UInt8.le_iff_toNat_le]) ?_
      rw [UInt8.toNat_sub]
      split <;> omega
    subFrom := by
      refine flags_of_apply .subFrom rfl (by simp [UInt8.le_iff_toNat_le]) ?_
      rw [UInt8.toNat_sub]
      split <;> omega
    shiftRight := by
      refine flags_of_apply .shiftRight rfl ?_ ?_
      · simp only [decide_eq_true_eq]
        split <;> omega
      · have halved : (core.v x >>> 1).toNat = (core.v x).toNat / 2 := by
          simp [UInt8.toNat_shiftRight, Nat.shiftRight_eq_div_pow]
        rw [halved]
        omega
    shiftLeft := by
      refine flags_of_apply .shiftLeft rfl ?_ ?_
      · simp only [decide_eq_true_eq]
        split <;> omega
      · have doubled : (core.v x <<< 1).toNat = 2 * (core.v x).toNat % 256 := by
          simp [UInt8.toNat_shiftLeft, Nat.shiftLeft_eq, Nat.mul_comm]
        rw [doubled]
        omega
    shiftRightAlone := fun z _ => alone_of_execute .shiftRight x y z rfl
    shiftLeftAlone := fun z _ => alone_of_execute .shiftLeft x y z rfl
    addIndex := ⟨_, (performs_iff (.addIndex x)).mpr rfl, rfl, rfl⟩ }

end Chip8
