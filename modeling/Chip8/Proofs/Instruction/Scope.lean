import Chip8.Proofs.Instruction.Parts

namespace Chip8

/-- An operation that writes the flag besides its result. -/
def Arith.SetsFlag : Arith → Prop
  | .copy | .or | .and | .xor => False
  | .add | .sub | .shiftRight | .subFrom | .shiftLeft => True

theorem Memory.length_readAll_le (memory : Memory) (address : Int) (count : Nat) :
    (memory.readAll address count).1.length ≤ count := by
  induction count generalizing address with
  | zero => exact Nat.le_refl 0
  | succ count ih =>
      unfold readAll
      cases memory.read address with
      | error fault => exact Nat.zero_le _
      | ok byte => exact Nat.succ_le_succ (ih (address + 1))

theorem Keypad.isPressed_of_firstPressed {keypad : Keypad} {key : Fin 16}
    (first : keypad.firstPressed = some key) : keypad.isPressed key = true :=
  List.find?_some first

namespace Core

variable (core : Core) {x k : Reg}

theorem v_setV (x : Reg) (value : UInt8) (k : Reg) :
    (core.setV x value).v k = if k = x then value else core.v k := by
  simp only [setV, v, Registers.set, Fin.getElem_fin, Vector.getElem_set, Fin.ext_iff, eq_comm]

theorem v_setV_ne (value : UInt8) (apart : k ≠ x) : (core.setV x value).v k = core.v k := by
  rw [v_setV, if_neg apart]

theorem v_setFlag_ne (flag : Bool) (apart : k ≠ 15) : (core.setFlag flag).v k = core.v k :=
  core.v_setV_ne _ apart

theorem v_compute_ne (op : Arith) (y : Reg) (apart : k ≠ x) (unflagged : op.SetsFlag → k ≠ 15) :
    (core.compute op x y).v k = core.v k := by
  have flagged (value : UInt8) (flag : Bool) (sets : op.SetsFlag) :
      ((core.setV x value).setFlag flag).v k = core.v k :=
    ((core.setV x value).v_setFlag_ne flag (unflagged sets)).trans (core.v_setV_ne value apart)
  cases op with
  | copy | or | and | xor => exact core.v_setV_ne _ apart
  | add | sub | shiftRight | subFrom | shiftLeft => exact flagged _ _ trivial

theorem v_drawAtIndex_ne (x y : Reg) (rows : Fin 16) (apart : k ≠ 15) :
    (core.drawAtIndex x y rows).1.v k = core.v k := by
  unfold drawAtIndex
  split
  · rfl
  · exact v_setFlag_ne _ _ apart

theorem v_awaitKey_ne (apart : (∃ key, core.keypad.isPressed key = true) → k ≠ x) :
    (core.awaitKey x).v k = core.v k := by
  unfold awaitKey
  cases first : core.keypad.firstPressed with
  | none => rfl
  | some key => exact core.v_setV_ne _ (apart ⟨key, Keypad.isPressed_of_firstPressed first⟩)

theorem v_readAtIndex_beyond {count : Nat} (beyond : count ≤ k.val) :
    (core.readAtIndex count).1.v k = core.v k := by
  have few := core.memory.length_readAll_le core.registers.i count
  change (core.registers.setAll 0 (core.memory.readAll core.registers.i count).1).v[k.val] = _
  rw [Registers.getElem_setAll _ _ _ k.val k.isLt, if_pos (Nat.zero_le _),
    List.getElem?_eq_none (by omega)]
  rfl

end Core

namespace Instruction

/-- The registers that an instruction may write. Awaiting a key writes one only if a key is down. -/
def WritesRegister (dialect : Dialect) (keypad : Keypad) (k : Reg) : Instruction → Prop
  | .load x _ | .addByte x _ | .random x _ | .readDelay x => k = x
  | .arith op x _ => k = x ∨ op.SetsFlag ∧ k = 15
  | .draw .. => k = 15
  | .awaitKey x => (∃ key, keypad.isPressed key = true) ∧ k = x
  | .restore x => k.val < dialect.span x
  | _ => False

/-- The cells that an instruction may write while the index is `i`. -/
def WritesCell (dialect : Dialect) (i : Int) (a : Nat) : Instruction → Prop
  | .decimal _ => i ≤ a ∧ a ≤ i + 2
  | .store x => i ≤ a ∧ a < i + dialect.span x
  | _ => False

def draws : Instruction → Nat
  | .random .. => 1
  | _ => 0

variable {dialect : Dialect} {core : Core} {instruction : Instruction}

theorem screenAfter_ne (changed : instruction.screenAfter core ≠ core.screen) :
    instruction = .clear ∨ ∃ x y rows, instruction = .draw x y rows := by
  cases instruction with
  | clear => exact .inl rfl
  | draw x y rows => exact .inr ⟨x, y, rows, rfl⟩
  | _ => exact absurd rfl changed

theorem stackAfter_ne (changed : instruction.stackAfter core ≠ core.stack) :
    (∃ target, instruction = .call target) ∨ instruction = .ret := by
  cases instruction with
  | call target => exact .inl ⟨target, rfl⟩
  | ret => exact .inr rfl
  | _ => exact absurd rfl changed

theorem delayAfter_ne (changed : (instruction.timersAfter core).delay ≠ core.timers.delay) :
    ∃ x, instruction = .setDelay x := by
  cases instruction with
  | setDelay x => exact ⟨x, rfl⟩
  | _ => exact absurd rfl changed

theorem soundAfter_ne (changed : (instruction.timersAfter core).sound ≠ core.timers.sound) :
    ∃ x, instruction = .setSound x := by
  cases instruction with
  | setSound x => exact ⟨x, rfl⟩
  | _ => exact absurd rfl changed

theorem indexAfter_ne (changed : instruction.indexAfter core ≠ core.registers.i) :
    (∃ target, instruction = .setIndex target) ∨ (∃ x, instruction = .addIndex x) ∨
      ∃ x, instruction = .glyph x := by
  cases instruction with
  | setIndex target => exact .inl ⟨target, rfl⟩
  | addIndex x => exact .inr (.inl ⟨x, rfl⟩)
  | glyph x => exact .inr (.inr ⟨x, rfl⟩)
  | _ => exact absurd rfl changed

theorem randomAfter_eq (instruction : Instruction) (core : Core) :
    instruction.randomAfter core =
      { core.random with drawn := core.random.drawn + instruction.draws } := by
  cases instruction <;> rfl

theorem execute_v_outside {k : Reg}
    (outside : ¬instruction.WritesRegister dialect core.keypad k) :
    (instruction.execute dialect core).1.v k = core.v k := by
  cases instruction with
  | load x byte => exact core.v_setV_ne _ outside
  | addByte x byte => exact core.v_setV_ne _ outside
  | random x mask => exact Core.v_setV_ne _ _ outside
  | readDelay x => exact core.v_setV_ne _ outside
  | arith op x y =>
      obtain ⟨apart, unflagged⟩ := not_or.mp outside
      exact core.v_compute_ne op y apart (not_and.mp unflagged)
  | draw x y rows => exact core.v_drawAtIndex_ne x y rows outside
  | awaitKey x => exact core.v_awaitKey_ne (not_and.mp outside)
  | restore x => exact core.v_readAtIndex_beyond (Nat.le_of_not_lt outside)
  | _ => exact congrArg (·[k]) (execute_values dialect core _)

theorem execute_cell_outside {a : Nat} (bound : a < 4096)
    (outside : ¬instruction.WritesCell dialect core.registers.i a) :
    (instruction.execute dialect core).1.memory.cells[a] = core.memory.cells[a] := by
  have kept (bytes : List UInt8)
      (beyond : ¬(core.registers.i ≤ a ∧ a < core.registers.i + bytes.length)) :
      (core.memory.writeAll core.registers.i bytes).1.cells[a] = core.memory.cells[a] := by
    rw [Memory.getElem_writeAll _ _ _ a bound]
    split
    · rw [List.getElem?_eq_none (by omega), Option.getD_none]
    · rfl
  cases instruction with
  | decimal x =>
      refine kept (decimalDigits (core.v x)) ?_
      simp only [WritesCell] at outside
      simp only [decimalDigits, List.length_cons, List.length_nil]
      omega
  | store x =>
      have spanned : (core.registers.v.toList.take (dialect.span x)).length = dialect.span x :=
        List.length_take_of_le (by simpa using dialect.span_le x)
      refine kept (core.registers.v.toList.take (dialect.span x)) ?_
      rw [spanned]
      exact outside
  | _ => exact congrArg (·.cells[a]) (execute_memory dialect core _)

end Instruction

end Chip8
