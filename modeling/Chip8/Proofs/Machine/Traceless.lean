import Chip8.Proofs.Machine.Alike
import Chip8.Proofs.Machine.Counter
import Chip8.Proofs.Machine.Reserved

/-! At power-on the registers and the timers are zero, the screen is dark, the stack empty and no key
is down, and the index points to reserved zeros. Some instructions then change nothing but the program
counter, and draw a random byte at most. `Instruction.Traceless` says which. -/

namespace Chip8

/-- A computer at power-on, with any program in memory. -/
structure Core.Fresh (core : Core) : Prop where
  registers : core.registers = .powerOn
  reserved : core.memory.Reserved
  stack : core.stack = .empty
  screen : core.screen = .dark
  keypad : core.keypad = .released
  timers : core.timers = .stopped

/-- The same computer, up to the random source. -/
def Core.Like (one other : Core) : Prop := ∃ random, one = other.supplied random

theorem Core.like_refl (core : Core) : core.Like core := ⟨core.random, rfl⟩

namespace Instruction

/-- An instruction changes the program counter and the random source at most. -/
structure Spares (dialect : Dialect) (core : Core) (instruction : Instruction) : Prop where
  values : instruction.valuesAfter dialect core = core.registers.v
  index : instruction.indexAfter core = core.registers.i
  memory : instruction.memoryAfter dialect core = core.memory
  stack : instruction.stackAfter core = core.stack
  screen : instruction.screenAfter core = core.screen
  timers : instruction.timersAfter core = core.timers

/-- The instructions that spare a computer at power-on. Subtractions set the flag, and a random byte
must not come through its mask. -/
def Traceless (random : RandomSource) : Instruction → Prop
  | .call _ => False
  | .load _ byte => byte = 0
  | .addByte _ byte => byte = 0
  | .arith op _ _ => op ≠ .sub ∧ op ≠ .subFrom
  | .setIndex target => target.val = 0
  | .random _ mask => random.next.1 &&& mask = 0
  | .glyph _ => False
  | _ => True

end Instruction

theorem Instruction.execute_like_iff {dialect : Dialect} {core : Core} {instruction : Instruction}
    {pc : Int} :
    (instruction.execute dialect core).1.Like (core.setPc pc) ↔
      instruction.Spares dialect core ∧ instruction.counterAfter dialect core = pc := by
  rw [execute_eq]
  constructor
  · intro ⟨source, same⟩
    refine ⟨⟨?_, ?_, ?_, ?_, ?_, ?_⟩, ?_⟩
    · exact congrArg (·.registers.v) same
    · exact congrArg (·.registers.i) same
    · exact congrArg (·.memory) same
    · exact congrArg (·.stack) same
    · exact congrArg (·.screen) same
    · exact congrArg (·.timers) same
    · exact congrArg (·.registers.pc) same
  · intro ⟨spares, counter⟩
    refine ⟨instruction.randomAfter core, ?_⟩
    rw [spares.values, spares.index, spares.memory, spares.stack, spares.screen, spares.timers,
      counter]
    rfl

theorem Memory.Reserved.zeros {memory : Memory} (kept : memory.Reserved) {count : Nat}
    (few : count ≤ 80) : memory.cells.toList.take count = List.replicate count 0 := by
  have shorter : min count 0x200 = count := by omega
  have within : min count 0x50 = count := by omega
  rw [← shorter, ← List.take_take, kept.take, List.append_assoc,
    List.take_append_of_le_length (by simpa using few), List.take_replicate, within, shorter]

theorem Screen.spriteCells_zeros (x y : Int) {sprite : List Int} (zeros : ∀ row ∈ sprite, row = 0) :
    spriteCells x y sprite = [] := by
  induction sprite generalizing y with
  | nil => rfl
  | cons row rest ih =>
      have none : rowCells x y 0 = [] := rfl
      rw [spriteCells, zeros row (by simp), none, ih _ fun row member => zeros row (by simp [member])]
      rfl

namespace Core.Fresh

variable {core : Core}

theorem v_eq (fresh : core.Fresh) (x : Reg) : core.v x = 0 := by
  rw [Core.v, fresh.registers]
  exact Vector.getElem_replicate x.isLt

theorem set_iff (fresh : core.Fresh) (x : Reg) (byte : UInt8) :
    core.registers.v.set x.val byte x.isLt = core.registers.v ↔ byte = 0 := by
  have zero : core.registers.v[x.val] = 0 := fresh.v_eq x
  constructor
  · intro same
    have put : (core.registers.v.set x byte)[x.val] = byte := Vector.getElem_set_self _
    rw [← put, same, zero]
  · intro none
    rw [none, ← zero, Vector.set_getElem_self]

theorem set_zero (fresh : core.Fresh) (x : Reg) : core.setV x 0 = core := by
  have same := (fresh.set_iff x 0).mpr rfl
  rw [Core.setV, Registers.set, same]

theorem index_eq (fresh : core.Fresh) : core.registers.i = 0 := by
  rw [fresh.registers]
  rfl

theorem setFlag_iff (fresh : core.Fresh) (flag : Bool) :
    (core.setFlag flag).registers.v = core.registers.v ↔ flag = false := by
  refine (fresh.set_iff 15 _).trans ?_
  cases flag <;> decide

theorem compute_eq (fresh : core.Fresh) (op : Arith) (x y : Reg) :
    core.compute op x y = ((op.apply 0 0).2.map core.setFlag).getD core := by
  cases op <;> simp [compute, Arith.apply, fresh.v_eq, fresh.set_zero]

/-- Only subtractions set the flag, since nothing is borrowed. -/
theorem compute_iff (fresh : core.Fresh) (op : Arith) (x y : Reg) :
    (core.compute op x y).registers.v = core.registers.v ↔ op ≠ .sub ∧ op ≠ .subFrom := by
  rw [fresh.compute_eq]
  cases op <;> simp [Arith.apply, fresh.setFlag_iff]

theorem sprite_eq (fresh : core.Fresh) {rows : Fin 16} {sprite : List UInt8}
    (read : core.memory.readSprite core.registers.i rows.val = .ok sprite) :
    sprite = List.replicate rows.val 0 := by
  unfold Memory.readSprite at read
  split at read
  · split at read
    · have last : (core.registers.i + rows.val).toNat = rows.val := by
        rw [fresh.index_eq]
        omega
      have first : core.registers.i.toNat = 0 := by rw [fresh.index_eq]; rfl
      rw [last, first] at read
      have zeros : core.memory.cells.toList.take rows.val = List.replicate rows.val 0 :=
        fresh.reserved.zeros (by omega)
      have cells : (core.memory.cells.extract 0 rows.val).toList =
          core.memory.cells.toList.take rows.val := by
        apply List.ext_getElem
        · simp
        · intro k _ _
          simp only [Vector.getElem_toList, Vector.getElem_extract, List.getElem_take, Nat.zero_add]
      cases read
      rw [cells, zeros]
    · cases read
  · cases read

theorem drawAtIndex_eq (fresh : core.Fresh) (x y : Reg) (rows : Fin 16) :
    (core.drawAtIndex x y rows).1 = core := by
  unfold drawAtIndex
  split
  · rfl
  · rename_i sprite read
    have zeros : ∀ row ∈ sprite.map fun row => (row.toNat : Int), row = 0 := by
      rw [fresh.sprite_eq read]
      intro row member
      obtain ⟨byte, inSprite, shown⟩ := List.mem_map.mp member
      rw [← shown, (List.mem_replicate.mp inSprite).2]
      rfl
    have nothing : core.screen.draw (core.v x).toNat (core.v y).toNat
        (sprite.map fun row => (row.toNat : Int)) = (core.screen, false) := by
      rw [Screen.draw, Screen.spriteCells_zeros _ _ zeros]
      rfl
    rw [nothing]
    exact fresh.set_zero 15

theorem readAtIndex_eq (fresh : core.Fresh) {count : Nat} (few : count ≤ 16) :
    (core.readAtIndex count).1 = core := by
  have start : core.registers.i = (0 : Nat) := fresh.index_eq
  have bytes := core.memory.readAll_bytes 0 count
  rw [← start, List.drop_zero, fresh.reserved.zeros (by omega)] at bytes
  have same : (core.registers.setAll 0 (core.memory.readAll core.registers.i count).1).v =
      core.registers.v := by
    apply Vector.ext
    intro k bound
    have zero : core.registers.v[k] = 0 := fresh.v_eq ⟨k, bound⟩
    rw [Registers.getElem_setAll _ _ _ k bound, if_pos (Nat.zero_le k), bytes, zero]
    simp [List.getElem?_replicate]
    split <;> rfl
  rw [core.readAtIndex_eq, Core.readAtIndex, same]

theorem writeAll_eq (fresh : core.Fresh) (bytes : List UInt8) :
    (core.memory.writeAll core.registers.i bytes).1 = core.memory := by
  apply Memory.writeAll_outside
  rw [fresh.index_eq]
  omega

/-- A computer at power-on is spared by the traceless instructions and by no others. -/
theorem spares_iff (fresh : core.Fresh) (dialect : Dialect) (instruction : Instruction) :
    instruction.Spares dialect core ↔ instruction.Traceless core.random := by
  cases instruction with
  | clear => exact ⟨fun _ => trivial, fun _ => ⟨rfl, rfl, rfl, rfl, fresh.screen.symm, rfl⟩⟩
  | ret =>
      have same : Instruction.ret.stackAfter core = core.stack := by
        rw [Instruction.stackAfter, fresh.stack]
        rfl
      exact ⟨fun _ => trivial, fun _ => ⟨rfl, rfl, rfl, same, rfl, rfl⟩⟩
  | call target =>
      refine ⟨fun spares => ?_, False.elim⟩
      have pushed := congrArg CallStack.depth spares.stack
      rw [Instruction.stackAfter, fresh.stack] at pushed
      exact absurd pushed (by simp [CallStack.call, CallStack.empty])
  | load x byte =>
      exact ⟨fun spares => (fresh.set_iff x byte).mp spares.values,
        fun zero => ⟨(fresh.set_iff x byte).mpr zero, rfl, rfl, rfl, rfl, rfl⟩⟩
  | addByte x byte =>
      have sum : core.v x + byte = byte := by simp [fresh.v_eq]
      exact ⟨fun spares => sum.symm.trans ((fresh.set_iff x _).mp spares.values),
        fun zero => ⟨(fresh.set_iff x _).mpr (sum.trans zero), rfl, rfl, rfl, rfl, rfl⟩⟩
  | arith op x y =>
      exact ⟨fun spares => (fresh.compute_iff op x y).mp spares.values,
        fun other => ⟨(fresh.compute_iff op x y).mpr other, rfl, rfl, rfl, rfl, rfl⟩⟩
  | setIndex target =>
      refine ⟨fun spares => ?_, fun zero => ⟨rfl, ?_, rfl, rfl, rfl, rfl⟩⟩
      · have index := spares.index
        rw [fresh.index_eq] at index
        exact Int.ofNat_inj.mp index
      · rw [fresh.index_eq, Instruction.indexAfter, zero]
        rfl
  | random x mask =>
      exact ⟨fun spares => (fresh.set_iff x _).mp spares.values,
        fun zero => ⟨(fresh.set_iff x _).mpr zero, rfl, rfl, rfl, rfl, rfl⟩⟩
  | draw x y rows =>
      have same := fresh.drawAtIndex_eq x y rows
      exact ⟨fun _ => trivial, fun _ => ⟨congrArg (·.registers.v) same, rfl, rfl, rfl,
        congrArg (·.screen) same, rfl⟩⟩
  | readDelay x =>
      have delay : core.timers.delay = 0 := by rw [fresh.timers]; rfl
      exact ⟨fun _ => trivial, fun _ => ⟨(fresh.set_iff x _).mpr delay, rfl, rfl, rfl, rfl, rfl⟩⟩
  | awaitKey x =>
      have none : core.keypad.firstPressed = none := by rw [fresh.keypad]; decide
      have same : (core.awaitKey x).registers.v = core.registers.v := by
        rw [awaitKey, none]
        rfl
      exact ⟨fun _ => trivial, fun _ => ⟨same, rfl, rfl, rfl, rfl, rfl⟩⟩
  | setDelay x =>
      have same : { core.timers with delay := core.v x } = core.timers := by
        rw [fresh.v_eq, fresh.timers]
        rfl
      exact ⟨fun _ => trivial, fun _ => ⟨rfl, rfl, rfl, rfl, rfl, same⟩⟩
  | setSound x =>
      have same : { core.timers with sound := core.v x } = core.timers := by
        rw [fresh.v_eq, fresh.timers]
        rfl
      exact ⟨fun _ => trivial, fun _ => ⟨rfl, rfl, rfl, rfl, rfl, same⟩⟩
  | addIndex x =>
      have same : (core.registers.i + (core.v x).toNat) % 65536 = core.registers.i := by
        rw [fresh.v_eq, fresh.index_eq]
        rfl
      exact ⟨fun _ => trivial, fun _ => ⟨rfl, same, rfl, rfl, rfl, rfl⟩⟩
  | glyph x =>
      refine ⟨fun spares => ?_, False.elim⟩
      have index := spares.index
      simp only [Instruction.indexAfter, fresh.index_eq, Memory.fontAddress, Memory.fontStart,
        Memory.glyphSize] at index
      omega
  | decimal x =>
      exact ⟨fun _ => trivial, fun _ => ⟨rfl, rfl, fresh.writeAll_eq _, rfl, rfl, rfl⟩⟩
  | store x =>
      exact ⟨fun _ => trivial, fun _ => ⟨rfl, rfl, fresh.writeAll_eq _, rfl, rfl, rfl⟩⟩
  | restore x =>
      have same := fresh.readAtIndex_eq (dialect.span_le x)
      exact ⟨fun _ => trivial, fun _ => ⟨congrArg (·.registers.v) same, rfl, rfl, rfl, rfl, rfl⟩⟩
  | _ => exact ⟨fun _ => trivial, fun _ => ⟨rfl, rfl, rfl, rfl, rfl, rfl⟩⟩

end Core.Fresh

end Chip8
