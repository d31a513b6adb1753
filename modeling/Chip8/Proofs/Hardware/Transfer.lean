import Chip8.Hardware.Core

namespace Chip8

namespace Memory

theorem isProgram_iff {address : Int} : isProgram address = true ↔ 512 ≤ address ∧ address < 4096 :=
  decide_eq_true_iff

def put (memory : Memory) (address : Int) (byte : UInt8) : Memory :=
  { memory with cells := memory.cells.setIfInBounds address.toNat byte }

theorem write_inside {memory : Memory} {address : Int} (byte : UInt8)
    (inside : 512 ≤ address ∧ address < 4096) :
    memory.write address byte.toNat = .ok (memory.put address byte) := by
  have same : Numeral.lowByte byte.toNat = byte := by
    have bound := byte.toNat_lt
    apply UInt8.toNat_inj.mp
    rw [Numeral.lowByte_toNat]
    omega
  have bound : address.toNat < 4096 := by omega
  have placed : memory.cells.setIfInBounds address.toNat byte =
      memory.cells.set address.toNat byte bound := by
    apply Vector.ext
    intro a inMemory
    rw [Vector.getElem_setIfInBounds, Vector.getElem_set]
  simp only [write, inside, same, and_self, dif_pos, put, placed]

theorem write_outside {memory : Memory} {address : Int} (value : Int)
    (outside : ¬(512 ≤ address ∧ address < 4096)) :
    memory.write address value = .error (.outOfBounds address .notProgram) := by
  simp only [write, outside, dif_neg, not_false_eq_true]

/-- A cell after a transfer to memory holds its byte of the transfer, if the transfer reaches it and
begins in the program, and otherwise what it held. -/
theorem getElem_writeAll (memory : Memory) (address : Int) (bytes : List UInt8) (a : Nat)
    (bound : a < 4096) :
    (memory.writeAll address bytes).1.cells[a] =
      if 512 ≤ address ∧ address ≤ a then bytes[(a - address).toNat]?.getD memory.cells[a]
      else memory.cells[a] := by
  induction bytes generalizing memory address with
  | nil => simp [writeAll]
  | cons byte rest ih =>
      by_cases inside : 512 ≤ address ∧ address < 4096
      · simp only [writeAll, write_inside byte inside]
        rw [ih]
        by_cases here : address = a
        · have notBeyond : ¬(512 ≤ address + 1 ∧ address + 1 ≤ a) := by omega
          have reached : 512 ≤ address ∧ address ≤ a := by omega
          have first : (a - address).toNat = 0 := by omega
          rw [if_neg notBeyond, if_pos reached, first]
          simp [put, here]
        · have kept : (memory.put address byte).cells[a] = memory.cells[a] :=
            Vector.getElem_setIfInBounds_ne bound (by omega)
          simp only [kept]
          by_cases beyond : address < a
          · have later : (a - address).toNat = (a - (address + 1)).toNat + 1 := by omega
            rw [if_pos (by omega), if_pos (by omega), later, List.getElem?_cons_succ]
          · rw [if_neg (by omega), if_neg (by omega)]
      · simp only [writeAll, write_outside byte.toNat inside]
        by_cases reached : 512 ≤ address ∧ address ≤ a
        · omega
        · rw [if_neg reached]

theorem writeAll_eq (memory : Memory) (address : Int) (bytes : List UInt8) :
    (memory.writeAll address bytes).1 =
      { memory with cells := (memory.writeAll address bytes).1.cells } := by
  induction bytes generalizing memory address with
  | nil => rfl
  | cons byte rest ih =>
      by_cases inside : 512 ≤ address ∧ address < 4096
      · simp only [writeAll, write_inside byte inside]
        rw [ih]
        rfl
      · simp only [writeAll, write_outside byte.toNat inside]

/-- The first address, from a given one on, that cannot be written. -/
def barrier (address : Int) : Int := if 512 ≤ address ∧ address ≤ 4095 then 4096 else address

theorem barrier_succ {address : Int} (inside : 512 ≤ address ∧ address < 4096) :
    barrier (address + 1) = barrier address := by
  unfold barrier
  rw [if_pos (by omega : 512 ≤ address ∧ address ≤ 4095)]
  split
  · rfl
  · omega

theorem writeAll_fault (memory : Memory) (address : Int) (bytes : List UInt8) :
    (memory.writeAll address bytes).2 =
      if bytes = [] ∨ 512 ≤ address ∧ address + bytes.length ≤ 4096 then none
      else some (.outOfBounds (barrier address) .notProgram) := by
  induction bytes generalizing memory address with
  | nil => simp [writeAll]
  | cons byte rest ih =>
      by_cases inside : 512 ≤ address ∧ address < 4096
      · have sameEnd : (rest = [] ∨ 512 ≤ address + 1 ∧ address + 1 + rest.length ≤ 4096) ↔
            (byte :: rest = [] ∨ 512 ≤ address ∧ address + (byte :: rest).length ≤ 4096) := by
          cases rest <;> simp <;> omega
        simp only [writeAll, write_inside byte inside, ih, barrier_succ inside, sameEnd]
      · have notInside : ¬(512 ≤ address ∧ address ≤ 4095) := by omega
        have stopped : ¬(byte :: rest = [] ∨
            512 ≤ address ∧ address + (byte :: rest).length ≤ 4096) := by
          simp
          omega
        simp only [writeAll, write_outside byte.toNat inside, barrier, if_neg notInside,
          if_neg stopped]

theorem writeAll_outside {memory : Memory} {address : Int} (outside : ¬(512 ≤ address ∧ address < 4096))
    (bytes : List UInt8) : (memory.writeAll address bytes).1 = memory := by
  cases bytes with
  | nil => rfl
  | cons byte rest => simp only [writeAll, write_outside byte.toNat outside]

theorem toList_writeAll_of_long {memory : Memory} {start : Nat} {bytes : List UInt8}
    (inside : 512 ≤ start ∧ start < 4096) (long : 4096 < start + bytes.length) :
    (memory.writeAll start bytes).1.cells.toList =
      memory.cells.toList.take start ++ bytes.take (4096 - start) := by
  apply List.ext_getElem
  · simp
    omega
  · intro a inMemory _
    have bound : a < 4096 := by simpa using inMemory
    rw [Vector.getElem_toList, getElem_writeAll _ _ _ a bound]
    by_cases behind : a < start
    · have before : ¬(512 ≤ (start : Int) ∧ (start : Int) ≤ a) := by omega
      rw [if_neg before, List.getElem_append_left (by simp; omega)]
      simp
    · have reached : 512 ≤ (start : Int) ∧ (start : Int) ≤ a := by omega
      have place : ((a : Int) - start).toNat = a - start := by omega
      have given : a - start < bytes.length := by omega
      have first : min start 4096 = start := by omega
      rw [if_pos reached, place, List.getElem?_eq_getElem given,
        List.getElem_append_right (by simp; omega)]
      simp [first]

theorem read_eq (memory : Memory) (a : Nat) (bound : a < 4096) :
    memory.read a = .ok memory.cells[a] := by
  have inside : 0 ≤ (a : Int) ∧ (a : Int) < 4096 := by omega
  simp only [read, inside, and_self, dif_pos, Int.toNat_natCast]

theorem read_outside (memory : Memory) {address : Int} (outside : ¬(0 ≤ address ∧ address < 4096)) :
    memory.read address = .error (.outOfBounds address .unmapped) := by
  simp only [read, outside, dif_neg, not_false_eq_true]

theorem readAll_inside {memory : Memory} {start : Nat} (inside : start < 4096) (count : Nat) :
    memory.readAll start (count + 1) =
      (memory.cells[start] :: (memory.readAll (start + 1 : Nat) count).1,
        (memory.readAll (start + 1 : Nat) count).2) := by
  have cell := read_eq memory start inside
  rw [readAll, cell]
  rfl

theorem readAll_outside {memory : Memory} {start : Nat} (outside : ¬start < 4096) (count : Nat) :
    memory.readAll start (count + 1) = ([], some (.outOfBounds start .unmapped)) := by
  have beyond : ¬(0 ≤ (start : Int) ∧ (start : Int) < 4096) := by omega
  have nothing := read_outside memory beyond
  rw [readAll, nothing]

theorem readAll_bytes (memory : Memory) (start count : Nat) :
    (memory.readAll start count).1 = (memory.cells.toList.drop start).take count := by
  induction count generalizing start with
  | zero => simp [readAll]
  | succ count ih =>
      by_cases inside : start < 4096
      · have cell : memory.cells.toList.drop start =
            memory.cells[start] :: memory.cells.toList.drop (start + 1) := by
          rw [List.drop_eq_getElem_cons (by simpa using inside)]
          simp
        rw [readAll_inside inside, cell, List.take_succ_cons, ih (start + 1)]
      · have nothing : memory.cells.toList.drop start = [] :=
          List.drop_eq_nil_of_le (by simpa using inside)
        rw [readAll_outside inside, nothing, List.take_nil]

theorem readAll_fault (memory : Memory) (start count : Nat) :
    (memory.readAll start count).2 =
      if count = 0 ∨ start + count ≤ 4096 then none
      else some (.outOfBounds (max start 4096 : Nat) .unmapped) := by
  induction count generalizing start with
  | zero => simp [readAll]
  | succ count ih =>
      by_cases inside : start < 4096
      · have sameEnd : (count = 0 ∨ start + 1 + count ≤ 4096) ↔
            (count + 1 = 0 ∨ start + (count + 1) ≤ 4096) := by omega
        have samePlace : max (start + 1) 4096 = max start 4096 := by omega
        rw [readAll_inside inside, ih (start + 1), samePlace]
        simp only [sameEnd]
      · have stopped : ¬(count + 1 = 0 ∨ start + (count + 1) ≤ 4096) := by omega
        have place : max start 4096 = start := by omega
        rw [readAll_outside inside, if_neg stopped, place]

end Memory

namespace Registers

theorem getElem_setAll (registers : Registers) (x : Nat) (bytes : List UInt8) (k : Nat)
    (bound : k < 16) :
    (registers.setAll x bytes).v[k] =
      if x ≤ k then bytes[k - x]?.getD registers.v[k] else registers.v[k] := by
  induction bytes generalizing registers x with
  | nil => simp [setAll]
  | cons byte rest ih =>
      by_cases known : x < 16
      · simp only [setAll, known, dif_pos, ih]
        rcases Nat.lt_trichotomy x k with before | here | behind
        · have later : k - x = k - (x + 1) + 1 := by omega
          rw [if_pos (by omega), if_pos (by omega), later, List.getElem?_cons_succ]
          simp only [set]
          rw [Vector.getElem_set_ne _ _ (by simp; omega)]
        · have notBeyond : ¬x + 1 ≤ k := by omega
          have first : k - x = 0 := by omega
          rw [if_neg notBeyond, if_pos (by omega), first]
          simp [set, here]
        · rw [if_neg (by omega), if_neg (by omega)]
          simp only [set]
          rw [Vector.getElem_set_ne _ _ (by simp; omega)]
      · simp only [setAll, known, dif_neg, not_false_eq_true]
        rw [if_neg (by omega)]

theorem toList_setAll_zero {registers : Registers} {bytes : List UInt8} (few : bytes.length ≤ 16) :
    (registers.setAll 0 bytes).v.toList = bytes ++ registers.v.toList.drop bytes.length := by
  apply List.ext_getElem
  · simp
    omega
  · intro k inside _
    have bound : k < 16 := by simpa using inside
    rw [Vector.getElem_toList, getElem_setAll _ _ _ k bound, if_pos (Nat.zero_le k), Nat.sub_zero]
    by_cases given : k < bytes.length
    · rw [List.getElem?_eq_getElem given, List.getElem_append_left given, Option.getD_some]
    · have place : bytes.length + (k - bytes.length) = k := by omega
      rw [List.getElem?_eq_none (by omega), List.getElem_append_right (by omega), Option.getD_none]
      simp [place]

theorem setAll_eq (registers : Registers) (x : Nat) (bytes : List UInt8) :
    registers.setAll x bytes = { registers with v := (registers.setAll x bytes).v } := by
  induction bytes generalizing registers x with
  | nil => rfl
  | cons byte rest ih =>
      by_cases known : x < 16
      · simp only [setAll, known, dif_pos]
        rw [ih]
        rfl
      · simp only [setAll, known, dif_neg, not_false_eq_true]

end Registers

end Chip8
