import Chip8.Instruction.Basic

/-! # Instructions and their words

`Instruction.word` is the word that stands for an instruction, in the notation of programmers'
manuals: it writes down the patterns `1NNN`, `3XKK`, `8XY4`, `FX33` and so on. Reading a word is the
inverse: `decode?_eq_some_iff`.
-/

namespace Chip8

namespace Opcode

theorem immediate_toNat (op : Opcode) : op.immediate.toNat = op.word % 256 := by
  simp [immediate, UInt8.toNat_ofNat']

theorem word_of_address (op : Opcode) : op.word = op.family.val * 4096 + op.address.val := by
  simp only [family, address]
  omega

theorem word_of_immediate (op : Opcode) :
    op.word = op.family.val * 4096 + op.x.val * 256 + op.immediate.toNat := by
  rw [immediate_toNat]
  simp only [family, x]
  omega

theorem word_of_digits (op : Opcode) :
    op.word = op.family.val * 4096 + op.x.val * 256 + op.y.val * 16 + op.n.val := by
  simp only [family, x, y, n]
  omega

theorem fields_of_address {op : Opcode} (family : Nat) (address : Fin 4096)
    (word : op.word = family * 0x1000 + address.val) :
    op.family.val = family ∧ op.address = address := by
  have bound := address.isLt
  refine ⟨?_, Fin.ext ?_⟩ <;> simp only [Opcode.family, Opcode.address] <;> omega

theorem fields_of_immediate {op : Opcode} (family : Nat) (x : Fin 16) (byte : UInt8)
    (word : op.word = family * 0x1000 + x.val * 0x100 + byte.toNat) :
    op.family.val = family ∧ op.x = x ∧ op.immediate = byte := by
  have bound := byte.toNat_lt
  refine ⟨?_, Fin.ext ?_, UInt8.toNat_inj.mp ?_⟩
  · simp only [Opcode.family]
    omega
  · simp only [Opcode.x]
    omega
  · rw [immediate_toNat]
    omega

theorem fields_of_digits {op : Opcode} (family : Nat) (x y n : Fin 16)
    (word : op.word = family * 0x1000 + x.val * 0x100 + y.val * 0x10 + n.val) :
    op.family.val = family ∧ op.x = x ∧ op.y = y ∧ op.n = n := by
  refine ⟨?_, Fin.ext ?_, Fin.ext ?_, Fin.ext ?_⟩ <;>
    simp only [Opcode.family, Opcode.x, Opcode.y, Opcode.n] <;> omega

end Opcode

/-- The last digit of a word that computes with two registers. -/
def Arith.digit : Arith → Nat
  | .copy => 0x0
  | .or => 0x1
  | .and => 0x2
  | .xor => 0x3
  | .add => 0x4
  | .sub => 0x5
  | .shiftRight => 0x6
  | .subFrom => 0x7
  | .shiftLeft => 0xE

def Condition.word : Condition → Nat
  | .byteEq x byte => 0x3000 + x.val * 0x100 + byte.toNat
  | .byteNe x byte => 0x4000 + x.val * 0x100 + byte.toNat
  | .regEq x y => 0x5000 + x.val * 0x100 + y.val * 0x10 + 0x0
  | .regNe x y => 0x9000 + x.val * 0x100 + y.val * 0x10 + 0x0
  | .keyDown x => 0xE000 + x.val * 0x100 + 0x9E
  | .keyUp x => 0xE000 + x.val * 0x100 + 0xA1

namespace Instruction

/-- The word that stands for an instruction. -/
def word : Instruction → Nat
  | .clear => 0x00E0
  | .ret => 0x00EE
  | .jump target => 0x1000 + target.val
  | .call target => 0x2000 + target.val
  | .skip condition => condition.word
  | .load x byte => 0x6000 + x.val * 0x100 + byte.toNat
  | .addByte x byte => 0x7000 + x.val * 0x100 + byte.toNat
  | .arith op x y => 0x8000 + x.val * 0x100 + y.val * 0x10 + op.digit
  | .setIndex target => 0xA000 + target.val
  | .jumpFrom base => 0xB000 + base.val
  | .random x mask => 0xC000 + x.val * 0x100 + mask.toNat
  | .draw x y rows => 0xD000 + x.val * 0x100 + y.val * 0x10 + rows.val
  | .readDelay x => 0xF000 + x.val * 0x100 + 0x07
  | .awaitKey x => 0xF000 + x.val * 0x100 + 0x0A
  | .setDelay x => 0xF000 + x.val * 0x100 + 0x15
  | .setSound x => 0xF000 + x.val * 0x100 + 0x18
  | .addIndex x => 0xF000 + x.val * 0x100 + 0x1E
  | .glyph x => 0xF000 + x.val * 0x100 + 0x29
  | .decimal x => 0xF000 + x.val * 0x100 + 0x33
  | .store x => 0xF000 + x.val * 0x100 + 0x55
  | .restore x => 0xF000 + x.val * 0x100 + 0x65

theorem word_lt (instruction : Instruction) : instruction.word < 65536 := by
  cases instruction with
  | clear | ret => decide
  | skip condition =>
      cases condition with
      | byteEq _ byte | byteNe _ byte =>
          have := byte.toNat_lt
          simp only [word, Condition.word]
          omega
      | _ =>
          simp only [word, Condition.word]
          omega
  | load _ byte | addByte _ byte | random _ byte =>
      have := byte.toNat_lt
      simp only [word]
      omega
  | arith op _ _ =>
      have digit : op.digit < 16 := by cases op <;> decide
      simp only [word]
      omega
  | _ =>
      simp only [word]
      omega

def opcode (instruction : Instruction) : Opcode := ⟨instruction.word, instruction.word_lt⟩

theorem digit_of_ofDigit? {digit : Fin 16} {op : Arith} (known : Arith.ofDigit? digit = some op) :
    op.digit = digit.val := by
  unfold Arith.ofDigit? at known
  split at known <;> cases known <;> rfl

theorem word_of_decodeTransfer? {x : Reg} {byte : UInt8} {instruction : Instruction}
    (known : decodeTransfer? x byte = some instruction) :
    instruction.word = 0xF000 + x.val * 0x100 + byte.toNat := by
  unfold decodeTransfer? at known
  split at known <;> cases known <;> simp only [word] <;> simp

theorem word_of_decode? {op : Opcode} {instruction : Instruction}
    (known : decode? op = some instruction) : instruction.word = op.word := by
  have byAddress := op.word_of_address
  have byImmediate := op.word_of_immediate
  have byDigits := op.word_of_digits
  unfold decode? at known
  split at known
  -- Families of one instruction are read off; the others are split further.
  all_goals first
    | cases known; simp only [word, Condition.word]; omega
    | rename_i family
  · split at known
    · cases known
      simp only [word]
      omega
    · split at known <;> cases known
      simp only [word]
      omega
  · split at known <;> cases known
    simp only [word, Condition.word]
    omega
  · obtain ⟨arith, ofDigit, rfl⟩ := Option.map_eq_some_iff.mp known
    simp only [word, digit_of_ofDigit? ofDigit]
    omega
  · split at known <;> cases known
    simp only [word, Condition.word]
    omega
  · split at known
    · rename_i pressed
      cases known
      have byte : op.immediate.toNat = 0x9E := by rw [pressed]; rfl
      simp only [word, Condition.word]
      omega
    · split at known <;> cases known
      rename_i released
      have byte : op.immediate.toNat = 0xA1 := by rw [released]; rfl
      simp only [word, Condition.word]
      omega
  · simp only [imp_false] at *
    have bound := op.family.isLt
    rw [word_of_decodeTransfer? known]
    omega

theorem ofDigit?_of_digit (op : Arith) {digit : Fin 16} (same : digit.val = op.digit) :
    Arith.ofDigit? digit = some op := by
  have equal : digit = ⟨op.digit, by cases op <;> decide⟩ := Fin.ext same
  rw [equal]
  cases op <;> rfl

theorem decode?_transfer {op : Opcode} (x : Reg) (byte : UInt8)
    (same : op.word = 0xF000 + x.val * 0x100 + byte.toNat) :
    decode? op = decodeTransfer? x byte := by
  obtain ⟨family, register, immediate⟩ := Opcode.fields_of_immediate 0xF x byte same
  simp only [decode?, family, register, immediate]

theorem decode?_skip {op : Opcode} {condition : Condition} (same : op.word = condition.word) :
    decode? op = some (.skip condition) := by
  cases condition with
  | byteEq x byte =>
      obtain ⟨family, register, immediate⟩ := Opcode.fields_of_immediate 0x3 x byte same
      simp only [decode?, family, register, immediate]
  | byteNe x byte =>
      obtain ⟨family, register, immediate⟩ := Opcode.fields_of_immediate 0x4 x byte same
      simp only [decode?, family, register, immediate]
  | regEq x y =>
      obtain ⟨family, first, second, last⟩ := Opcode.fields_of_digits 0x5 x y 0 same
      simp only [decode?, family, first, second, last, if_true]
  | regNe x y =>
      obtain ⟨family, first, second, last⟩ := Opcode.fields_of_digits 0x9 x y 0 same
      simp only [decode?, family, first, second, last, if_true]
  | keyDown x =>
      obtain ⟨family, register, immediate⟩ := Opcode.fields_of_immediate 0xE x 0x9E same
      simp only [decode?, family, register, immediate, if_true]
  | keyUp x =>
      obtain ⟨family, register, immediate⟩ := Opcode.fields_of_immediate 0xE x 0xA1 same
      simp only [decode?, family, register, immediate]
      rfl

theorem decode?_of_word {op : Opcode} {instruction : Instruction}
    (same : op.word = instruction.word) : decode? op = some instruction := by
  cases instruction with
  | clear =>
      have family : op.family.val = 0x0 := by simp only [Opcode.family, same, word]
      simp only [decode?, family, same, word, if_true]
  | ret =>
      have family : op.family.val = 0x0 := by simp only [Opcode.family, same, word]
      simp only [decode?, family, same, word]
      rfl
  | jump target =>
      obtain ⟨family, address⟩ := Opcode.fields_of_address 0x1 target same
      simp only [decode?, family, address]
  | call target =>
      obtain ⟨family, address⟩ := Opcode.fields_of_address 0x2 target same
      simp only [decode?, family, address]
  | skip condition => exact decode?_skip same
  | load x byte =>
      obtain ⟨family, register, immediate⟩ := Opcode.fields_of_immediate 0x6 x byte same
      simp only [decode?, family, register, immediate]
  | addByte x byte =>
      obtain ⟨family, register, immediate⟩ := Opcode.fields_of_immediate 0x7 x byte same
      simp only [decode?, family, register, immediate]
  | arith arith x y =>
      obtain ⟨family, first, second, last⟩ := Opcode.fields_of_digits 0x8 x y
        ⟨arith.digit, by cases arith <;> decide⟩ same
      simp only [decode?, family, first, second, ofDigit?_of_digit arith (congrArg Fin.val last)]
      rfl
  | setIndex target =>
      obtain ⟨family, address⟩ := Opcode.fields_of_address 0xA target same
      simp only [decode?, family, address]
  | jumpFrom base =>
      obtain ⟨family, address⟩ := Opcode.fields_of_address 0xB base same
      simp only [decode?, family, address]
  | random x mask =>
      obtain ⟨family, register, immediate⟩ := Opcode.fields_of_immediate 0xC x mask same
      simp only [decode?, family, register, immediate]
  | draw x y rows =>
      obtain ⟨family, first, second, last⟩ := Opcode.fields_of_digits 0xD x y rows same
      simp only [decode?, family, first, second, last]
  | readDelay x => exact decode?_transfer x 0x07 same
  | awaitKey x => exact decode?_transfer x 0x0A same
  | setDelay x => exact decode?_transfer x 0x15 same
  | setSound x => exact decode?_transfer x 0x18 same
  | addIndex x => exact decode?_transfer x 0x1E same
  | glyph x => exact decode?_transfer x 0x29 same
  | decimal x => exact decode?_transfer x 0x33 same
  | store x => exact decode?_transfer x 0x55 same
  | restore x => exact decode?_transfer x 0x65 same

/-- Words and instructions correspond: a word is read as an instruction exactly if it is the word of
that instruction. -/
theorem decode?_eq_some_iff {op : Opcode} {instruction : Instruction} :
    decode? op = some instruction ↔ op.word = instruction.word :=
  ⟨fun known => (word_of_decode? known).symm, decode?_of_word⟩

theorem decode?_opcode (instruction : Instruction) : decode? instruction.opcode = some instruction :=
  decode?_of_word rfl

theorem decode?_eq_none_iff {op : Opcode} :
    decode? op = none ↔ ∀ instruction : Instruction, op.word ≠ instruction.word := by
  rw [Option.eq_none_iff_forall_ne_some]
  exact forall_congr' fun instruction => not_congr decode?_eq_some_iff

theorem decode?_zero : decode? (.ofInt 0) = none := by decide

end Instruction

end Chip8
