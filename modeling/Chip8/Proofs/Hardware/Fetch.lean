import Chip8.Proofs.Hardware.Transfer

namespace Chip8

namespace Memory

variable {memory : Memory} {pc : Int} {op : Opcode} {fault : Fault}

theorem readOpcode_inside (read : memory.readOpcode pc = .ok op) : 0x200 ≤ pc ∧ pc ≤ 0xFFE := by
  unfold readOpcode at read
  split at read
  · omega
  · cases read

theorem readOpcode_error_iff :
    memory.readOpcode pc = .error fault ↔
      ¬(0x200 ≤ pc ∧ pc ≤ 0xFFE) ∧ fault = .outOfBounds pc .notCounter := by
  unfold readOpcode
  split
  · simp
    omega
  · simp [eq_comm]
    omega

theorem readOpcode_ok_iff :
    memory.readOpcode pc = .ok op ↔
      (0x200 ≤ pc ∧ pc ≤ 0xFFE) ∧
        ∃ high low, memory.read pc = .ok high ∧ memory.read (pc + 1) = .ok low ∧
          op = .ofBytes high low := by
  by_cases inside : 0x200 ≤ pc ∧ pc ≤ 0xFFE
  · have guarded : 512 ≤ pc ∧ pc + 1 < 4096 := by omega
    have first : 0 ≤ pc ∧ pc < 4096 := by omega
    have second : 0 ≤ pc + 1 ∧ pc + 1 < 4096 := by omega
    have next : (pc + 1).toNat = pc.toNat + 1 := by omega
    simp [readOpcode, read, guarded, inside, first, second, next, eq_comm]
  · have refused : ¬(512 ≤ pc ∧ pc + 1 < 4096) := by omega
    simp [readOpcode, refused, inside]

end Memory

/-- The big-endian word at the program counter, which must be where a word can be read. -/
def Core.Fetches (core : Core) (word : Nat) : Prop :=
  (0x200 ≤ core.registers.pc ∧ core.registers.pc ≤ 0xFFE) ∧
    ∃ high low, core.memory.read core.registers.pc = .ok high ∧
      core.memory.read (core.registers.pc + 1) = .ok low ∧
      word = high.toNat * 0x100 + low.toNat

theorem Core.fetches_iff {core : Core} {word : Nat} :
    core.Fetches word ↔
      ∃ op, core.memory.readOpcode core.registers.pc = .ok op ∧ op.word = word := by
  constructor
  · rintro ⟨inside, high, low, first, second, rfl⟩
    exact ⟨.ofBytes high low, Memory.readOpcode_ok_iff.mpr ⟨inside, high, low, first, second, rfl⟩, rfl⟩
  · rintro ⟨op, read, rfl⟩
    obtain ⟨inside, high, low, first, second, rfl⟩ := Memory.readOpcode_ok_iff.mp read
    exact ⟨inside, high, low, first, second, rfl⟩

end Chip8
