import Chip8.Proofs.Instruction.Scope

namespace Chip8

namespace Memory

variable {memory : Memory} {address : Int} {bytes : List UInt8}

def Carries (memory : Memory) (address : Int) (bytes : List UInt8) : Prop :=
  ∀ (k : Nat) (bound : k < bytes.length), memory.read (address + k) = .ok bytes[k]

theorem carries_cons {byte : UInt8} {rest : List UInt8} :
    memory.Carries address (byte :: rest) ↔
      memory.read address = .ok byte ∧ memory.Carries (address + 1) rest := by
  have here : address + ((0 : Nat) : Int) = address := by omega
  have next (k : Nat) : address + ((k + 1 : Nat) : Int) = address + 1 + k := by omega
  constructor
  · intro carries
    constructor
    · rw [← here]
      exact carries 0 (by simp)
    · intro k bound
      rw [← next]
      exact carries (k + 1) (by simpa using bound)
  · rintro ⟨first, later⟩ k bound
    cases k with
    | zero =>
        rw [here]
        exact first
    | succ k =>
        rw [next]
        exact later k (by simpa using bound)

theorem Carries.congr (other : Memory) (carries : memory.Carries address bytes)
    (same : ∀ k < bytes.length, other.read (address + (k : Nat)) = memory.read (address + (k : Nat))) :
    other.Carries address bytes := by
  intro k bound
  rw [same k bound, carries k bound]

theorem readAll_of_carries (carries : memory.Carries address bytes) :
    memory.readAll address bytes.length = (bytes, none) := by
  induction bytes generalizing address with
  | nil => rfl
  | cons byte rest ih =>
      obtain ⟨first, later⟩ := carries_cons.mp carries
      simp only [List.length_cons, readAll, first, ih later]

theorem exists_carries (memory : Memory) (address : Int) (count : Nat)
    (inside : ∀ k < count, 0 ≤ address + (k : Nat) ∧ address + (k : Nat) < 4096) :
    ∃ bytes, bytes.length = count ∧ memory.Carries address bytes := by
  induction count generalizing address with
  | zero => exact ⟨[], rfl, fun k bound => by simp at bound⟩
  | succ count ih =>
      obtain ⟨rest, length, later⟩ := ih (address + 1) fun k bound => by
        have next := inside (k + 1) (by omega)
        omega
      have here := inside 0 (by omega)
      obtain ⟨start, rfl⟩ := Int.eq_ofNat_of_zero_le (by omega : 0 ≤ address)
      have bound : start < 4096 := by omega
      exact ⟨memory.cells[start] :: rest, by simp [length],
        carries_cons.mpr ⟨memory.read_eq start bound, later⟩⟩

theorem put_of_read {byte : UInt8} (read : memory.read address = .ok byte) :
    memory.put address byte = memory := by
  by_cases inside : 0 ≤ address ∧ address < 4096
  · obtain ⟨start, rfl⟩ := Int.eq_ofNat_of_zero_le inside.1
    have bound : start < 4096 := by omega
    have cell : memory.cells[start] = byte := by simpa [memory.read_eq start bound] using read
    have same : memory.cells.setIfInBounds start byte = memory.cells := by
      apply Vector.ext
      intro a inMemory
      rw [Vector.getElem_setIfInBounds]
      split
      · rename_i here
        subst here
        exact cell.symm
      · rfl
    simp only [put, Int.toNat_natCast, same]
  · rw [read_outside memory inside] at read
    cases read

theorem writeAll_of_carries (carries : memory.Carries address bytes)
    (inside : ∀ k < bytes.length, 512 ≤ address + (k : Nat) ∧ address + (k : Nat) < 4096) :
    memory.writeAll address bytes = (memory, none) := by
  induction bytes generalizing address with
  | nil => rfl
  | cons byte rest ih =>
      obtain ⟨first, later⟩ := carries_cons.mp carries
      have here : 512 ≤ address ∧ address < 4096 := by simpa using inside 0 (by simp)
      have rewritten := ih later fun k bound => by
        have next := inside (k + 1) (by simpa using bound)
        omega
      simp only [writeAll, write_inside byte here, put_of_read first, rewritten]

theorem carries_writeAll (done : (memory.writeAll address bytes).2 = none) :
    (memory.writeAll address bytes).1.Carries address bytes := by
  intro k bound
  have inside : 512 ≤ address ∧ address + bytes.length ≤ 4096 := by
    rw [writeAll_fault] at done
    split at done
    · rename_i ended
      rcases ended with rfl | inside
      · simp at bound
      · exact inside
    · cases done
  obtain ⟨start, rfl⟩ := Int.eq_ofNat_of_zero_le (by omega : 0 ≤ address)
  have reached : 512 ≤ (start : Int) ∧ (start : Int) ≤ (start + k : Nat) := by omega
  have place : ((start + k : Nat) - (start : Int)).toNat = k := by omega
  rw [← Int.natCast_add, read_eq _ _ (by omega), getElem_writeAll, if_pos reached, place,
    List.getElem?_eq_getElem bound]
  rfl

end Memory

namespace Core

variable {core after : Core} {bytes : List UInt8}

theorem writeAtIndex_done (done : core.writeAtIndex bytes = (after, none)) :
    after.registers.i = core.registers.i ∧ after.memory.Carries core.registers.i bytes := by
  have left : after = { core with memory := (core.memory.writeAll core.registers.i bytes).1 } :=
    (congrArg Prod.fst done).symm
  have unstopped : (core.memory.writeAll core.registers.i bytes).2 = none :=
    Option.map_eq_none_iff.mp (congrArg Prod.snd done)
  rw [left]
  exact ⟨rfl, Memory.carries_writeAll unstopped⟩

theorem readAtIndex_of_carries (carries : core.memory.Carries core.registers.i bytes) :
    core.readAtIndex bytes.length =
      ({ core with registers := core.registers.setAll 0 bytes }, none) := by
  simp only [readAtIndex, Memory.readAll_of_carries carries]
  rfl

theorem v_setAll (core : Core) (bytes : List UInt8) (k : Reg) :
    ({ core with registers := core.registers.setAll 0 bytes } : Core).v k =
      bytes[k.val]?.getD (core.v k) :=
  (core.registers.getElem_setAll 0 bytes k.val k.isLt).trans (if_pos (Nat.zero_le _))

theorem writeAtIndex_of_carries (carries : core.memory.Carries core.registers.i bytes)
    (inside : ∀ k < bytes.length,
      512 ≤ core.registers.i + (k : Nat) ∧ core.registers.i + (k : Nat) < 4096) :
    core.writeAtIndex bytes = (core, none) := by
  simp only [writeAtIndex, Memory.writeAll_of_carries carries inside]
  rfl

/-- What transfers up to `Vx` undo of each other. -/
structure RoundTrips (dialect : Dialect) (core : Core) (x : Reg) : Prop where
  /-- As long as the bytes of a store are where they are, a core with the same index restores them. -/
  restored : ∀ stored, (Instruction.store x).execute dialect core = (stored, none) →
    ∀ later : Core, later.registers.i = core.registers.i →
    (∀ k < dialect.span x, later.memory.read (core.registers.i + (k : Nat)) =
      stored.memory.read (core.registers.i + (k : Nat))) →
    ∃ after, (Instruction.restore x).execute dialect later = (after, none) ∧
      (∀ k : Reg, after.v k = if k.val < dialect.span x then core.v k else later.v k) ∧
      after = { later with registers := { later.registers with v := after.registers.v } }
  storedBack : (∀ k < dialect.span x,
      0x200 ≤ core.registers.i + (k : Nat) ∧ core.registers.i + (k : Nat) ≤ 0xFFF) →
    ∃ loaded after, (Instruction.restore x).execute dialect core = (loaded, none) ∧
      (Instruction.store x).execute dialect loaded = (after, none) ∧ after.memory = core.memory
  /-- Where the register that is named is left out, the next one has to be named. -/
  exclusive : ∀ next : Reg, next.val = x.val + 1 →
    (Instruction.store next).execute { dialect with inclusiveTransfer := false } core =
        (Instruction.store x).execute { dialect with inclusiveTransfer := true } core ∧
      (Instruction.restore next).execute { dialect with inclusiveTransfer := false } core =
        (Instruction.restore x).execute { dialect with inclusiveTransfer := true } core
  digits : ∀ stored, (Instruction.decimal x).execute dialect core = (stored, none) →
    ∃ hundreds tens ones : UInt8,
      stored.memory.read core.registers.i = .ok hundreds ∧
      stored.memory.read (core.registers.i + 1) = .ok tens ∧
      stored.memory.read (core.registers.i + 2) = .ok ones ∧
      hundreds.toNat < 10 ∧ tens.toNat < 10 ∧ ones.toNat < 10 ∧
      100 * hundreds.toNat + 10 * tens.toNat + ones.toNat = (core.v x).toNat ∧
      ∃ after, (Instruction.restore 2).execute { dialect with inclusiveTransfer := true } stored =
          (after, none) ∧
        after.v 0 = hundreds ∧ after.v 1 = tens ∧ after.v 2 = ones
  index : ∀ instruction ∈ [Instruction.store x, .restore x, .decimal x],
    (instruction.execute dialect core).1.registers.i = core.registers.i

theorem length_values (core : Core) (dialect : Dialect) (x : Reg) :
    (core.registers.v.toList.take (dialect.span x)).length = dialect.span x :=
  List.length_take_of_le (by simpa using dialect.span_le x)

theorem restored_of_stored {dialect : Dialect} {x : Reg} {stored later : Core}
    (done : (Instruction.store x).execute dialect core = (stored, none))
    (indexed : later.registers.i = core.registers.i)
    (kept : ∀ k < dialect.span x, later.memory.read (core.registers.i + (k : Nat)) =
      stored.memory.read (core.registers.i + (k : Nat))) :
    ∃ after, (Instruction.restore x).execute dialect later = (after, none) ∧
      (∀ k : Reg, after.v k = if k.val < dialect.span x then core.v k else later.v k) ∧
      after = { later with registers := { later.registers with v := after.registers.v } } := by
  have length := core.length_values dialect x
  obtain ⟨_, carries⟩ := writeAtIndex_done done
  have carried := carries.congr later.memory (by rwa [length])
  rw [← indexed] at carried
  have restores := readAtIndex_of_carries carried
  rw [length] at restores
  refine ⟨_, restores, fun k => ?_, ?_⟩
  · rw [v_setAll, List.getElem?_take]
    split
    · simp [v]
    · rfl
  · exact congrArg (fun registers => { later with registers := registers })
      (later.registers.setAll_eq 0 _)

theorem storedBack_of_inside {dialect : Dialect} {x : Reg}
    (inside : ∀ k < dialect.span x,
      0x200 ≤ core.registers.i + (k : Nat) ∧ core.registers.i + (k : Nat) ≤ 0xFFF) :
    ∃ loaded after, (Instruction.restore x).execute dialect core = (loaded, none) ∧
      (Instruction.store x).execute dialect loaded = (after, none) ∧
      after.memory = core.memory := by
  obtain ⟨bytes, length, carries⟩ :=
    core.memory.exists_carries core.registers.i (dialect.span x) fun k bound => by
      have := inside k bound
      omega
  have loads := readAtIndex_of_carries carries
  rw [length] at loads
  refine ⟨_, { core with registers := core.registers.setAll 0 bytes }, loads, ?_, rfl⟩
  -- The registers now begin with the bytes that are to be stored.
  have values : (core.registers.setAll 0 bytes).v.toList.take (dialect.span x) = bytes := by
    rw [Registers.toList_setAll_zero (length ▸ dialect.span_le x), ← length, List.take_left]
  have index : (core.registers.setAll 0 bytes).i = core.registers.i := by
    rw [Registers.setAll_eq]
  simp only [Instruction.execute, values]
  apply writeAtIndex_of_carries
  · rw [index]
    exact carries
  · intro k bound
    rw [index]
    have := inside k (length ▸ bound)
    omega

theorem span_of_exclusive (dialect : Dialect) {x next : Reg} (follows : next.val = x.val + 1) :
    ({ dialect with inclusiveTransfer := false } : Dialect).span next =
      ({ dialect with inclusiveTransfer := true } : Dialect).span x := by
  simp [Dialect.span, follows]

theorem digits_value (value : UInt8) :
    (value / 100).toNat < 10 ∧ (value / 10 % 10).toNat < 10 ∧ (value % 10).toNat < 10 ∧
      100 * (value / 100).toNat + 10 * (value / 10 % 10).toNat + (value % 10).toNat =
        value.toNat := by
  have bound := value.toNat_lt
  simp only [UInt8.toNat_div, UInt8.toNat_mod, UInt8.reduceToNat]
  omega

theorem digits_of_stored {dialect : Dialect} {x : Reg} {stored : Core}
    (done : (Instruction.decimal x).execute dialect core = (stored, none)) :
    ∃ hundreds tens ones : UInt8,
      stored.memory.read core.registers.i = .ok hundreds ∧
      stored.memory.read (core.registers.i + 1) = .ok tens ∧
      stored.memory.read (core.registers.i + 2) = .ok ones ∧
      hundreds.toNat < 10 ∧ tens.toNat < 10 ∧ ones.toNat < 10 ∧
      100 * hundreds.toNat + 10 * tens.toNat + ones.toNat = (core.v x).toNat ∧
      ∃ after, (Instruction.restore 2).execute { dialect with inclusiveTransfer := true } stored =
          (after, none) ∧
        after.v 0 = hundreds ∧ after.v 1 = tens ∧ after.v 2 = ones := by
  have written : core.writeAtIndex (decimalDigits (core.v x)) = (stored, none) := done
  obtain ⟨index, carries⟩ := writeAtIndex_done written
  have restores := readAtIndex_of_carries (index.symm ▸ carries)
  have behind : core.registers.i + 2 = core.registers.i + 1 + 1 := by omega
  simp only [decimalDigits, Memory.carries_cons, ← behind] at carries
  obtain ⟨first, second, third, _⟩ := carries
  obtain ⟨hundreds, tens, ones, value⟩ := digits_value (core.v x)
  exact ⟨_, _, _, first, second, third, hundreds, tens, ones, value, _, restores,
    stored.v_setAll _ 0, stored.v_setAll _ 1, stored.v_setAll _ 2⟩

theorem roundTrips (dialect : Dialect) (core : Core) (x : Reg) : core.RoundTrips dialect x where
  restored _ done _ indexed kept := restored_of_stored done indexed kept
  storedBack inside := storedBack_of_inside inside
  exclusive next follows := by
    simp only [Instruction.execute, span_of_exclusive dialect follows, and_self]
  digits _ done := digits_of_stored done
  index instruction member := by
    rw [Instruction.execute_index]
    simp at member
    rcases member with rfl | rfl | rfl <;> rfl

end Core

end Chip8
