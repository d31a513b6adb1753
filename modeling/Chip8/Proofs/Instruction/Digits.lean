import Chip8.Proofs.Instruction.Words
import Mathlib.Data.Int.Bitwise

/-! Any integer makes a word, and any four integers make the digits of one. What is kept of an integer
is a remainder, or its low bits in two's complement, which are the same (`land_mask`); digits that
stand side by side are a number in base sixteen, or a disjunction of shifted bits, which is the same
again (`shiftLeft_or`). Hence words and digits are inverse to each other: `Opcode.inverse`. -/

namespace Chip8

namespace Numeral

/-- The low bits of a negative integer are those that its complement lacks. -/
theorem ldiff_mask (m count : Nat) :
    Nat.ldiff (2 ^ count - 1) m = 2 ^ count - (m % 2 ^ count + 1) := by
  have bound : m % 2 ^ count < 2 ^ count := Nat.mod_lt m (Nat.two_pow_pos count)
  apply Nat.eq_of_testBit_eq
  intro i
  rw [Nat.testBit_ldiff, Nat.testBit_two_pow_sub_one, Nat.testBit_two_pow_sub_succ bound,
    Nat.testBit_mod_two_pow]
  cases decide (i < count) <;> rfl

/-- The low bits of an integer in two's complement are its remainder, also if it is negative. -/
theorem land_mask (n : Int) (count : Nat) :
    Int.land n (2 ^ count - 1 : Nat) = n % (2 ^ count : Nat) := by
  cases n with
  | ofNat m =>
      change ((m &&& 2 ^ count - 1 : Nat) : Int) = ((m % 2 ^ count : Nat) : Int)
      rw [Nat.and_two_pow_sub_one_eq_mod]
  | negSucc m =>
      have positive : 0 < 2 ^ count := Nat.two_pow_pos count
      have bound : m % 2 ^ count < 2 ^ count := Nat.mod_lt m positive
      change ((Nat.ldiff (2 ^ count - 1) m : Nat) : Int) = _
      rw [ldiff_mask, Int.negSucc_emod m (Int.natCast_pos.mpr positive)]
      omega

theorem shiftLeft_or {low place : Nat} (bound : low < 2 ^ place) (high : Nat) :
    high <<< place ||| low = high * 2 ^ place + low := by
  rw [← Nat.shiftLeft_add_eq_or_of_lt bound, Nat.shiftLeft_eq]

def lowDigit (n : Int) : Fin 16 := ⟨(n % 16).toNat, by omega⟩

theorem lowDigit_val (n : Int) : ((lowDigit n).val : Int) = n % 16 := by
  simp only [lowDigit]
  omega

theorem lowDigit_bits (n : Int) : ((lowDigit n).val : Int) = Int.land n 0xF :=
  (lowDigit_val n).trans (land_mask n 4).symm

theorem lowDigit_digit (digit : Fin 16) : lowDigit digit.val = digit := by
  apply Fin.ext
  simp only [lowDigit]
  omega

theorem lowDigit_eq_iff {m n : Int} : lowDigit m = lowDigit n ↔ m % 16 = n % 16 := by
  rw [Fin.ext_iff, ← lowDigit_val, ← lowDigit_val, Int.natCast_inj]

section SideBySide

variable (family x y n : Fin 16)

theorem or_byte : y.val <<< 4 ||| n.val = y.val * 0x10 + n.val := by
  have bound : n.val < 2 ^ 4 := n.isLt
  exact shiftLeft_or bound y.val

theorem or_address :
    x.val <<< 8 ||| y.val <<< 4 ||| n.val = x.val * 0x100 + y.val * 0x10 + n.val := by
  have bound : y.val * 0x10 + n.val < 2 ^ 8 := by omega
  rw [Nat.or_assoc, or_byte, shiftLeft_or bound]
  omega

theorem or_word :
    family.val <<< 12 ||| x.val <<< 8 ||| y.val <<< 4 ||| n.val =
      family.val * 0x1000 + x.val * 0x100 + y.val * 0x10 + n.val := by
  have bound : x.val * 0x100 + y.val * 0x10 + n.val < 2 ^ 12 := by omega
  rw [Nat.or_assoc (family.val <<< 12), Nat.or_assoc (family.val <<< 12), or_address,
    shiftLeft_or bound]
  omega

end SideBySide

end Numeral

namespace Opcode

open Numeral

theorem ofInt_val (w : Int) : ((ofInt w).word : Int) = w % 0x10000 := by
  simp only [ofInt]
  omega

/-- The fields of a word as shifts, masks and disjunctions of its bits. -/
structure Bits (op : Opcode) : Prop where
  nibbles : op.nibbles.map Fin.val = [12, 8, 4, 0].map fun place => op.word >>> place &&& 0xF
  address : op.address.val = op.x.val <<< 8 ||| op.y.val <<< 4 ||| op.n.val
  immediate : op.immediate.toNat = op.y.val <<< 4 ||| op.n.val

theorem bits (op : Opcode) : op.Bits where
  nibbles := by
    have digit (number : Nat) : number &&& 0xF = number % 16 :=
      Nat.and_two_pow_sub_one_eq_mod number 4
    have bound := op.word_lt
    simp only [List.map_cons, List.map_nil, digit, Nat.shiftRight_eq_div_pow, Nat.reducePow, nibbles,
      family, x, y, n, List.cons.injEq, and_true, true_and]
    omega
  address := by
    have byAddress := op.word_of_address
    have byDigits := op.word_of_digits
    rw [or_address]
    omega
  immediate := by
    have byImmediate := op.word_of_immediate
    have byDigits := op.word_of_digits
    rw [or_byte]
    omega

theorem ofNibbles_word (a b c d : Int) :
    (ofNibbles a b c d).word = (lowDigit a).val * 0x1000 + (lowDigit b).val * 0x100 +
      (lowDigit c).val * 0x10 + (lowDigit d).val := by
  simp only [ofNibbles, ofInt, lowDigit]
  omega

theorem nibbles_ofNibbles (a b c d : Int) :
    (ofNibbles a b c d).nibbles = [lowDigit a, lowDigit b, lowDigit c, lowDigit d] := by
  obtain ⟨family, x, y, n⟩ := fields_of_digits (lowDigit a).val (lowDigit b) (lowDigit c) (lowDigit d)
    (ofNibbles_word a b c d)
  rw [nibbles, Fin.ext family, x, y, n]

theorem ofNibbles_digits (op : Opcode) :
    ofNibbles op.family.val op.x.val op.y.val op.n.val = op := by
  have word := ofNibbles_word op.family.val op.x.val op.y.val op.n.val
  simp only [lowDigit_digit] at word
  rw [← op.word_of_digits] at word
  rw [← ofInt_word (ofNibbles _ _ _ _), word, ofInt_word]

/-- The low four bits of each of four integers, moved to their places. -/
def joined (a b c d : Int) : Int :=
  Int.lor (Int.lor (Int.lor (Int.land a 0xF <<< 12) (Int.land b 0xF <<< 8)) (Int.land c 0xF <<< 4))
    (Int.land d 0xF)

theorem joined_eq (a b c d : Int) : joined a b c d = (ofNibbles a b c d).word := by
  rw [ofNibbles_word, ← or_word, joined]
  simp only [← lowDigit_bits]
  -- On integers that are not negative, shifts and disjunctions are those of natural numbers.
  rfl

theorem ofNibbles_eq_iff {a b c d a' b' c' d' : Int} :
    ofNibbles a b c d = ofNibbles a' b' c' d' ↔
      a % 16 = a' % 16 ∧ b % 16 = b' % 16 ∧ c % 16 = c' % 16 ∧ d % 16 = d' % 16 := by
  constructor
  · intro equal
    have digits := congrArg Opcode.nibbles equal
    rw [nibbles_ofNibbles, nibbles_ofNibbles] at digits
    simpa only [List.cons.injEq, lowDigit_eq_iff, and_true] using digits
  · rintro ⟨first, second, third, last⟩
    simp only [ofNibbles, first, second, third, last]

/-- A word keeps the low sixteen bits of an integer, and is read from them. -/
structure Truncates (w : Int) : Prop where
  word : ((ofInt w).word : Int) = w % 0x10000
  masked : ((ofInt w).word : Int) = Int.land w 0xFFFF
  fields : (ofInt w).Bits
  address : ((ofInt w).address.val : Int) = w % 0x1000
  immediate : ((ofInt w).immediate.toNat : Int) = w % 0x100
  rebuilt : ∃ family x y n : Fin 16, (ofInt w).nibbles = [family, x, y, n] ∧
    ofNibbles family.val x.val y.val n.val = ofInt w

/-- A word keeps the low four bits of each of four integers, and they can be read from it. -/
structure SetsDigits (a b c d : Int) : Prop where
  word : ((ofNibbles a b c d).word : Int) =
    a % 16 * 0x1000 + b % 16 * 0x100 + c % 16 * 0x10 + d % 16
  masked : ofNibbles a b c d = ofInt (joined a b c d)
  nibbles : (ofNibbles a b c d).nibbles.map (fun digit => (digit.val : Int)) =
    [a % 16, b % 16, c % 16, d % 16]
  same : ∀ a' b' c' d', ofNibbles a b c d = ofNibbles a' b' c' d' ↔
    a % 16 = a' % 16 ∧ b % 16 = b' % 16 ∧ c % 16 = c' % 16 ∧ d % 16 = d' % 16

/-- Words and digits are inverse to each other, whatever the integers are that they are made of. -/
theorem inverse (w a b c d : Int) : Truncates w ∧ SetsDigits a b c d := by
  have kept := ofInt_val w
  constructor
  · exact {
      word := kept
      masked := kept.trans (land_mask w 16).symm
      fields := (ofInt w).bits
      address := by
        simp only [address]
        omega
      immediate := by
        rw [immediate_toNat]
        omega
      rebuilt := ⟨_, _, _, _, rfl, ofNibbles_digits _⟩ }
  · exact {
      word := by
        rw [ofNibbles_word]
        simp only [Int.natCast_add, Int.natCast_mul, lowDigit_val]
        rfl
      masked := by rw [joined_eq, ofInt_word]
      nibbles := by
        rw [nibbles_ofNibbles]
        simp only [List.map_cons, List.map_nil, lowDigit_val]
      same := fun _ _ _ _ => ofNibbles_eq_iff }

example : ofNibbles (-1) 16 0x12 7 = ofInt 0xF027 := by decide

end Opcode

end Chip8
