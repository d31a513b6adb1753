import Chip8.Instruction.Listing
import Chip8.Proofs.Instruction.Words
import Chip8.Proofs.Text.HexNumber

/-! From the text of an instruction it can be told which one it was. The text is cut into a mnemonic
and operands; of these the kinds, the names and the order say which instructions of that mnemonic are
meant, and the numbers in them which one it is. -/

namespace Chip8

namespace Assembly

/-- An operand as it is read. It does not matter how many places a number has. -/
inductive Term where
  | register (index : Int)
  | number (value : Int)
  | symbol (name : String)
  deriving DecidableEq, Repr

def Term.read? : List Char → Option Term
  | 'V' :: '\x7b' :: rest => (Text.hexNumber? (String.ofList rest.dropLast)).map .register
  | '0' :: rest => (Text.hexNumber? (String.ofList ('0' :: rest))).map .number
  | chars => some (.symbol (String.ofList chars))

/-- The mnemonic and the operands of a text. Blanks stand between them, and commas mean nothing. -/
def words (text : String) : List (List Char) :=
  (text.toList.filter (· ≠ ',')).splitOn ' '

def within? (bound : Nat) (value : Int) : Option (Fin bound) :=
  if inside : 0 ≤ value ∧ value < bound then some ⟨value.toNat, by omega⟩ else none

def byte? (value : Int) : Option UInt8 := (within? 256 value).map UInt8.ofFin

def ofNothing : List (String × Instruction) := [("CLS", .clear), ("RET", .ret)]

def ofAddress : List (String × (Address → Instruction)) := [("JP", .jump), ("CALL", .call)]

def ofNamedAddress : List ((String × String) × (Address → Instruction)) :=
  [(("LD", "I"), .setIndex), (("JP", "V0"), .jumpFrom)]

def ofRegister : List (String × (Reg → Instruction)) :=
  [("SKP", fun x => .skip (.keyDown x)), ("SKNP", fun x => .skip (.keyUp x))]

def ofRegisterByte : List (String × (Reg → UInt8 → Instruction)) :=
  [("SE", fun x byte => .skip (.byteEq x byte)), ("SNE", fun x byte => .skip (.byteNe x byte)),
    ("LD", .load), ("ADD", .addByte), ("RND", .random)]

def ofRegisters : List (String × (Reg → Reg → Instruction)) :=
  [("SE", fun x y => .skip (.regEq x y)), ("SNE", fun x y => .skip (.regNe x y)),
    ("LD", .arith .copy), ("OR", .arith .or), ("AND", .arith .and), ("XOR", .arith .xor),
    ("ADD", .arith .add), ("SUB", .arith .sub), ("SHR", .arith .shiftRight),
    ("SUBN", .arith .subFrom), ("SHL", .arith .shiftLeft)]

def ofRegisterSymbol : List ((String × String) × (Reg → Instruction)) :=
  [(("LD", "DT"), .readDelay), (("LD", "KEY"), .awaitKey), (("LD", "[I]"), .restore)]

def ofSymbolRegister : List ((String × String) × (Reg → Instruction)) :=
  [(("LD", "DT"), .setDelay), (("LD", "ST"), .setSound), (("ADD", "I"), .addIndex),
    (("LD", "F"), .glyph), (("LD", "B"), .decimal), (("LD", "[I]"), .store)]

def ofSprite : List (String × (Reg → Reg → Fin 16 → Instruction)) := [("DRW", .draw)]

def ofTerms? (mnemonic : String) : List Term → Option Instruction
  | [] => ofNothing.lookup mnemonic
  | [.number target] => do
      return (← ofAddress.lookup mnemonic) (← within? 4096 target)
  | [.symbol name, .number target] => do
      return (← ofNamedAddress.lookup (mnemonic, name)) (← within? 4096 target)
  | [.register x] => do
      return (← ofRegister.lookup mnemonic) (← within? 16 x)
  | [.register x, .number value] => do
      return (← ofRegisterByte.lookup mnemonic) (← within? 16 x) (← byte? value)
  | [.register x, .register y] => do
      return (← ofRegisters.lookup mnemonic) (← within? 16 x) (← within? 16 y)
  | [.register x, .symbol name] => do
      return (← ofRegisterSymbol.lookup (mnemonic, name)) (← within? 16 x)
  | [.symbol name, .register x] => do
      return (← ofSymbolRegister.lookup (mnemonic, name)) (← within? 16 x)
  | [.register x, .register y, .number rows] => do
      return (← ofSprite.lookup mnemonic) (← within? 16 x) (← within? 16 y) (← within? 16 rows)
  | _ => none

def instruction? (text : String) : Option Instruction :=
  match words text with
  | mnemonic :: operands =>
      (operands.mapM Term.read?).bind (ofTerms? (String.ofList mnemonic))
  | [] => none

def assemble? (text : String) : Option Nat := (instruction? text).map Instruction.word

theorem within?_val {bound : Nat} (value : Fin bound) :
    within? bound (value.val : Int) = some value := by
  have inside : 0 ≤ (value.val : Int) ∧ (value.val : Int) < bound := by omega
  simp [within?, inside]

theorem byte?_toNat (byte : UInt8) : byte? (byte.toNat : Int) = some byte := by
  have value : (byte.toNat : Int) = byte.toFin.val := rfl
  rw [byte?, value, within?_val]
  rfl

/-- A word of a text, without the characters that separate words. -/
def Separate (chars : List Char) : Prop := ',' ∉ chars ∧ ' ' ∉ chars

instance (chars : List Char) : Decidable (Separate chars) :=
  inferInstanceAs (Decidable (_ ∧ _))

theorem filter_intercalate {α : Type} (keep : α → Bool) (separator : List α)
    (parts : List (List α)) :
    (separator.intercalate parts).filter keep =
      (separator.filter keep).intercalate (parts.map (List.filter keep)) := by
  induction parts with
  | nil => rfl
  | cons first rest ih =>
      cases rest with
      | nil => simp
      | cons second rest =>
          rw [List.map_cons] at ih
          simp only [List.map_cons, List.intercalate_cons_cons, List.filter_append, ih]

/-- The mnemonic and the operands of a listing as they stand in its text. -/
def parts (listing : Listing) : List (List Char) :=
  listing.mnemonic.toList :: listing.operands.map (String.toList ∘ Operand.text)

theorem filter_text (listing : Listing) :
    listing.text.toList.filter (· ≠ ',') =
      [' '].intercalate ((parts listing).map (List.filter (· ≠ ','))) := by
  unfold Listing.text parts
  cases operands : listing.operands with
  | nil => simp
  | cons first rest =>
      simp [filter_intercalate, List.intercalate_cons_cons]

theorem words_text {listing : Listing} (separate : ∀ part ∈ parts listing, Separate part) :
    words listing.text = parts listing := by
  have unchanged : ∀ part ∈ parts listing, part.filter (· ≠ ',') = id part := by
    intro part member
    apply List.filter_eq_self.mpr
    intro c inPart
    simpa using ne_of_mem_of_not_mem inPart (separate part member).1
  rw [words, filter_text, List.map_congr_left unchanged, List.map_id]
  apply List.splitOn_intercalate
  · exact fun part member => (separate part member).2
  · simp [parts]

def names : List String := ["I", "V0", "DT", "KEY", "ST", "F", "B", "[I]"]

def mnemonics : List String :=
  ["CLS", "RET", "JP", "CALL", "SE", "SNE", "SKP", "SKNP", "LD", "OR", "AND", "XOR", "ADD", "SUB",
    "SHR", "SUBN", "SHL", "RND", "DRW"]

theorem read?_name : ∀ name ∈ names,
    Separate name.toList ∧ Term.read? name.toList = some (.symbol name) := by
  decide

theorem separate_mnemonic : ∀ mnemonic ∈ mnemonics, Separate mnemonic.toList := by
  decide

theorem separate_marked (width n : Nat) : Separate (Numeral.marked width n).toList := by
  have hex := (Numeral.hexDigits_hexDigits n).padded width
  have comma : ',' ∉ Numeral.padded width (Numeral.hexDigits n) := hex.not_mem (by decide)
  have blank : ' ' ∉ Numeral.padded width (Numeral.hexDigits n) := hex.not_mem (by decide)
  simp [Separate, Numeral.toList_marked, comma, blank]

theorem read?_marked (width n : Nat) :
    Term.read? (Numeral.marked width n).toList = some (.number n) := by
  have text : String.ofList ('0' :: 'x' :: Numeral.padded width (Numeral.hexDigits n)) =
      Numeral.marked width n := by
    rw [← Numeral.toList_marked, String.ofList_toList]
  rw [Numeral.toList_marked, Term.read?, text, Text.hexNumber?_marked]
  rfl

end Assembly

open Assembly

namespace Operand

def term : Operand → Term
  | .register index => .register index
  | .byte value | .address value | .nibble value => .number value
  | .symbol name => .symbol name

/-- An operand as instructions have it. -/
def Legible : Operand → Prop
  | .register value | .byte value | .address value | .nibble value => 0 ≤ value
  | .symbol name => name ∈ names

theorem separate_text {operand : Operand} (legible : operand.Legible) :
    Separate operand.text.toList := by
  cases operand with
  | symbol name => exact (read?_name name legible).1
  | register index =>
      obtain ⟨n, rfl⟩ := Int.eq_ofNat_of_zero_le legible
      obtain ⟨comma, blank⟩ := separate_marked 0 n
      simp [Separate, text, comma, blank]
  | byte value | address value | nibble value =>
      obtain ⟨n, rfl⟩ := Int.eq_ofNat_of_zero_le legible
      exact separate_marked _ n

theorem read?_text {operand : Operand} (legible : operand.Legible) :
    Term.read? operand.text.toList = some operand.term := by
  cases operand with
  | symbol name => exact (read?_name name legible).2
  | register index =>
      obtain ⟨n, rfl⟩ := Int.eq_ofNat_of_zero_le legible
      simp [text, Term.read?, term, Text.hexNumber?_marked]
  | byte value | address value | nibble value =>
      obtain ⟨n, rfl⟩ := Int.eq_ofNat_of_zero_le legible
      exact read?_marked _ n

theorem mapM_read? {operands : List Operand} (legible : ∀ operand ∈ operands, operand.Legible) :
    (operands.map (String.toList ∘ text)).mapM Term.read? = some (operands.map term) := by
  induction operands with
  | nil => rfl
  | cons operand rest ih =>
      obtain ⟨first, later⟩ := List.forall_mem_cons.mp legible
      simp [read?_text first, ih later]

end Operand

namespace Instruction

theorem mnemonic_mem (instruction : Instruction) : instruction.mnemonic ∈ mnemonics := by
  cases instruction with
  | skip condition => cases condition <;> simp [mnemonic, Condition.mnemonic, mnemonics]
  | arith op x y => cases op <;> simp [mnemonic, Arith.mnemonic, mnemonics]
  | _ => simp [mnemonic, mnemonics]

theorem legible_operands (instruction : Instruction) :
    ∀ operand ∈ instruction.operands, operand.Legible := by
  cases instruction with
  | skip condition => cases condition <;> simp [operands, Condition.operands, Operand.Legible]
  | _ => simp [operands, Operand.Legible, names]

theorem ofTerms?_operands (instruction : Instruction) :
    ofTerms? instruction.mnemonic (instruction.operands.map Operand.term) = some instruction := by
  cases instruction with
  | clear | ret => rfl
  | skip condition =>
      cases condition <;>
        simp only [mnemonic, operands, Condition.mnemonic, Condition.operands, List.map_cons,
          List.map_nil, Operand.term, ofTerms?, within?_val, byte?_toNat] <;>
        rfl
  | arith op x y =>
      simp only [mnemonic, operands, List.map_cons, List.map_nil, Operand.term, ofTerms?,
        within?_val]
      cases op <;> rfl
  | _ =>
      simp only [mnemonic, operands, List.map_cons, List.map_nil, Operand.term, ofTerms?,
        within?_val, byte?_toNat]
      rfl

theorem instruction?_text (instruction : Instruction) (address : Int) (op : Opcode) :
    instruction? (instruction.listing address op).text = some instruction := by
  have legible := instruction.legible_operands
  have separate : ∀ part ∈ parts (instruction.listing address op), Separate part := by
    rw [parts, List.forall_mem_cons]
    constructor
    · exact separate_mnemonic _ instruction.mnemonic_mem
    · intro part member
      obtain ⟨operand, among, rfl⟩ := List.mem_map.mp member
      exact Operand.separate_text (legible operand among)
  have operands : (instruction.operands.map (String.toList ∘ Operand.text)).mapM Term.read? =
      some (instruction.operands.map Operand.term) := Operand.mapM_read? legible
  rw [instruction?, words_text separate]
  simp only [parts, listing, operands, String.ofList_toList, Option.bind_some]
  exact instruction.ofTerms?_operands

theorem assemble?_text {instruction : Instruction} {op : Opcode} (address : Int)
    (known : decode? op = some instruction) :
    assemble? (instruction.listing address op).text = some op.word := by
  rw [assemble?, instruction?_text, decode?_eq_some_iff.mp known]
  rfl

theorem text_eq_iff {op otherOp : Opcode} {instruction otherInstruction : Instruction}
    (known : decode? op = some instruction) (otherKnown : decode? otherOp = some otherInstruction)
    (address otherAddress : Int) :
    (instruction.listing address op).text = (otherInstruction.listing otherAddress otherOp).text ↔
      op.word = otherOp.word := by
  constructor
  · intro same
    have word := assemble?_text address known
    rw [same, assemble?_text otherAddress otherKnown] at word
    exact (Option.some.inj word).symm
  · intro same
    rw [decode?_eq_some_iff] at otherKnown
    rw [decode?_of_word (same.trans otherKnown)] at known
    cases known
    rfl

end Instruction

end Chip8
