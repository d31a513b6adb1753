import Chip8.Proofs.Hardware.Fetch
import Mathlib.Data.List.FinRange

namespace Chip8

namespace Opcode

def high (op : Opcode) : UInt8 := UInt8.ofNat (op.word / 256)

theorem ofBytes_high (op : Opcode) : ofBytes op.high op.immediate = op := by
  obtain ⟨word, word_lt⟩ := op
  have high : (UInt8.ofNat (word / 256)).toNat = word / 256 := by
    rw [UInt8.toNat_ofNat']
    omega
  have low : (UInt8.ofNat (word % 256)).toNat = word % 256 := by
    rw [UInt8.toNat_ofNat']
    omega
  simp only [ofBytes, Opcode.high, immediate, high, low, mk.injEq]
  omega

end Opcode

/-- Words as bytes, the more significant byte of each first. -/
def bigEndian (words : List Opcode) : List UInt8 := words.flatMap fun op => [op.high, op.immediate]

theorem length_bigEndian (words : List Opcode) : (bigEndian words).length = 2 * words.length := by
  induction words with
  | nil => rfl
  | cons op rest ih =>
      change (bigEndian rest).length + 2 = 2 * (rest.length + 1)
      omega

theorem bigEndian_even (words : List Opcode) (i : Nat) :
    (bigEndian words)[2 * i]? = words[i]?.map Opcode.high := by
  induction words generalizing i with
  | nil => rfl
  | cons op rest ih =>
      cases i with
      | zero => rfl
      | succ i => exact ih i

theorem bigEndian_odd (words : List Opcode) (i : Nat) :
    (bigEndian words)[2 * i + 1]? = words[i]?.map Opcode.immediate := by
  induction words generalizing i with
  | nil => rfl
  | cons op rest ih =>
      cases i with
      | zero => rfl
      | succ i => exact ih i

namespace Memory

/-- The program region holds these bytes, and zeros behind them. -/
structure Holds (memory : Memory) (program : Array UInt8) : Prop where
  bytes : ∀ a : Nat, 0x200 ≤ a → a ≤ 0xFFF → memory.read a = .ok (program.getD (a - 0x200) 0)
  size : memory.programSize = program.size

theorem loadProgram_holds (memory : Memory) {program : Array UInt8} (fits : program.size ≤ 3584) :
    ∃ after, memory.loadProgram program = .ok after ∧ after.Holds program := by
  have room : program.size ≤ programCapacity := fits
  refine ⟨_, if_pos room, fun a low high => ?_, rfl⟩
  have notReserved : ¬a < programStart := Nat.not_lt.mpr low
  rw [read_eq _ _ (by omega)]
  simp only [Vector.getElem_ofFn, if_neg notReserved]
  rfl

theorem loadProgram_refused (memory : Memory) {program : Array UInt8}
    (tooLarge : 3584 < program.size) :
    memory.loadProgram program = .error (.outOfMemory program.size 3584) := by
  have noRoom : ¬program.size ≤ programCapacity := Nat.not_le.mpr tooLarge
  exact if_neg noRoom

/-- The words of a program can be read from memory. -/
structure ReadsBack (memory : Memory) (words : List Opcode) : Prop where
  aligned : ∀ (i : Nat) (bound : i < words.length),
    memory.readOpcode (0x200 + 2 * i : Nat) = .ok words[i]
  /-- A zero stands behind the last word. -/
  between : ∀ (i : Nat) (bound : i < words.length), 0x201 + 2 * i ≤ 0xFFE →
    memory.readOpcode (0x201 + 2 * i : Nat) =
      .ok (.ofBytes words[i].immediate ((words[i + 1]?.map Opcode.high).getD 0))
  whole : ((List.finRange words.length).mapM fun i : Fin words.length =>
    memory.readOpcode (0x200 + 2 * i.val : Nat)).map bigEndian = .ok (bigEndian words)

variable {memory : Memory} {words : List Opcode}

theorem Holds.readOpcode (holds : memory.Holds (bigEndian words).toArray) {k : Nat}
    (inside : 0x200 + k ≤ 0xFFE) :
    memory.readOpcode (0x200 + k : Nat) =
      .ok (.ofBytes ((bigEndian words)[k]?.getD 0) ((bigEndian words)[k + 1]?.getD 0)) := by
  have first := holds.bytes (0x200 + k) (by omega) (by omega)
  have second := holds.bytes (0x200 + k + 1) (by omega) (by omega)
  rw [Nat.add_sub_cancel_left] at first
  rw [Nat.add_assoc, Nat.add_sub_cancel_left] at second
  refine readOpcode_ok_iff.mpr ⟨by omega, _, _, first, second, ?_⟩
  simp [Array.getD_eq_getD_getElem?]

theorem Holds.readsBack (holds : memory.Holds (bigEndian words).toArray)
    (fits : words.length ≤ 1792) : memory.ReadsBack words := by
  have aligned (i : Nat) (bound : i < words.length) :
      memory.readOpcode (0x200 + 2 * i : Nat) = .ok words[i] := by
    rw [holds.readOpcode (by omega), bigEndian_even, bigEndian_odd, List.getElem?_eq_getElem bound]
    exact congrArg Except.ok words[i].ofBytes_high
  refine ⟨aligned, ?_, ?_⟩
  · intro i bound inside
    have place : 0x201 + 2 * i = 0x200 + (2 * i + 1) := by omega
    have next : 2 * i + 1 + 1 = 2 * (i + 1) := by omega
    rw [place, holds.readOpcode (by omega), bigEndian_odd, next, bigEndian_even,
      List.getElem?_eq_getElem bound]
    rfl
  · have each : (fun i : Fin words.length => memory.readOpcode (0x200 + 2 * i.val : Nat)) =
        fun i => pure words[i.val] := funext fun i => aligned i.val i.isLt
    rw [each, List.mapM_pure, List.map_getElem_finRange words]
    rfl

end Memory

end Chip8
