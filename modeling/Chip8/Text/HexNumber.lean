import Chip8.Text.Characters

/-! A number may have blanks around it, one sign, and the mark `0x` or `0X`. Single underscores may
stand between digits and behind the mark. The decimal digits of every script count as digits. -/

namespace Chip8.Text

/-- The value of a hexadecimal digit: a letter from A to F, or a decimal digit of any script. -/
def hexDigitValue? (c : Char) : Option Nat :=
  if 'a' ≤ c ∧ c ≤ 'f' then some (c.toNat - 87)
  else if 'A' ≤ c ∧ c ≤ 'F' then some (c.toNat - 55)
  else digitValue? c

/-- The value of digits with single underscores between them, after digits worth `value`. -/
def hexDigitsValue? (value : Nat) : List Char → Option Nat
  | [] => none
  | [c] => (hexDigitValue? c).map (16 * value + ·)
  | c :: '_' :: rest => (hexDigitValue? c).bind fun d => hexDigitsValue? (16 * value + d) rest
  | c :: rest => (hexDigitValue? c).bind fun d => hexDigitsValue? (16 * value + d) rest

/-- Takes the mark of a hexadecimal number away, and one underscore behind it. -/
def dropMark : List Char → List Char
  | z :: x :: rest =>
      if digitValue? z = some 0 ∧ (x = 'x' ∨ x = 'X') then
        match rest with
        | '_' :: digits => digits
        | digits => digits
      else z :: x :: rest
  | short => short

def hexNumber? (text : String) : Option Int :=
  match stripBlanks text.toList with
  | '-' :: digits => (hexDigitsValue? 0 (dropMark digits)).map fun value => -Int.ofNat value
  | '+' :: digits => (hexDigitsValue? 0 (dropMark digits)).map Int.ofNat
  | digits => (hexDigitsValue? 0 (dropMark digits)).map Int.ofNat

end Chip8.Text
