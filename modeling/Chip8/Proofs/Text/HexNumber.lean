import Chip8.Numeral.Bits
import Chip8.Text.HexNumber
import Mathlib.Algebra.Group.Nat.Defs

namespace Chip8

namespace Numeral

/-- Some of the sixteen digits in a row. -/
def HexDigits (digits : List Char) : Prop := ∀ c ∈ digits, ∃ d : Fin 16, c = hexDigit d.val

theorem hexDigits_hexDigits (n : Nat) : HexDigits (hexDigits n) := by
  fun_induction hexDigits n with
  | case1 n small =>
      intro c member
      exact ⟨⟨n, small⟩, List.mem_singleton.mp member⟩
  | case2 n _ ih =>
      intro c member
      rcases List.mem_append.mp member with front | last
      · exact ih c front
      · exact ⟨⟨n % 16, by omega⟩, List.mem_singleton.mp last⟩

theorem hexDigits_ne_nil (n : Nat) : hexDigits n ≠ [] := by
  unfold hexDigits
  split <;> simp

theorem HexDigits.padded {digits : List Char} (hex : HexDigits digits) (width : Nat) :
    HexDigits (padded width digits) := by
  intro c member
  rcases List.mem_append.mp member with zero | digit
  · exact ⟨0, List.eq_of_mem_replicate zero⟩
  · exact hex c digit

theorem HexDigits.not_mem {digits : List Char} (hex : HexDigits digits) {c : Char}
    (other : ∀ d : Fin 16, c ≠ hexDigit d.val) : c ∉ digits := by
  intro member
  obtain ⟨d, same⟩ := hex c member
  exact other d same

theorem toList_hex (width n : Nat) : (hex width n).toList = padded width (hexDigits n) := by
  have notNegative : ¬(n : Int) < 0 := by omega
  simp [hex, notNegative]

theorem toList_marked (width n : Nat) :
    (marked width n).toList = '0' :: 'x' :: padded width (hexDigits n) := by
  simp [marked, toList_hex]

end Numeral

namespace Text

open Numeral

theorem hexDigitValue?_hexDigit (d : Fin 16) : hexDigitValue? (hexDigit d.val) = some d.val := by
  revert d
  decide

theorem isBlank_hexDigit (d : Fin 16) : isBlank (hexDigit d.val) = false := by
  revert d
  decide

theorem isBlank_of_hexDigits {digits : List Char} (hex : HexDigits digits) :
    ∀ c ∈ digits, isBlank c = false := by
  intro c member
  obtain ⟨d, rfl⟩ := hex c member
  exact isBlank_hexDigit d

theorem underscore_not_mem {digits : List Char} (hex : HexDigits digits) : '_' ∉ digits :=
  hex.not_mem (by decide)

variable {digits : List Char}

theorem hexDigitsValue?_cons (value : Nat) (c : Char) (more : digits ≠ [])
    (separate : '_' ∉ digits) :
    hexDigitsValue? value (c :: digits) =
      (hexDigitValue? c).bind fun d => hexDigitsValue? (16 * value + d) digits := by
  cases digits with
  | nil => exact absurd rfl more
  | cons next rest =>
      have apart : next ≠ '_' := by
        rintro rfl
        simp at separate
      rw [hexDigitsValue?]
      · simp
      · simpa using apart

theorem hexDigitsValue?_append (hex : HexDigits digits) {value front : Nat} (d : Fin 16)
    (read : hexDigitsValue? value digits = some front) :
    hexDigitsValue? value (digits ++ [hexDigit d.val]) = some (16 * front + d.val) := by
  induction digits generalizing value with
  | nil => cases read
  | cons c rest ih =>
      have tail : HexDigits rest := fun other member => hex other (by simp [member])
      have last : HexDigits [hexDigit d.val] := fun other member => ⟨d, List.mem_singleton.mp member⟩
      have separate : '_' ∉ rest ++ [hexDigit d.val] := by
        simp [underscore_not_mem tail, underscore_not_mem last]
      rw [List.cons_append, hexDigitsValue?_cons value c (by simp) separate]
      by_cases more : rest = []
      · subst more
        obtain ⟨first, known, rfl⟩ := Option.map_eq_some_iff.mp read
        simp [known, hexDigitsValue?, hexDigitValue?_hexDigit]
      · rw [hexDigitsValue?_cons value c more (underscore_not_mem tail)] at read
        obtain ⟨first, known, rest⟩ := Option.bind_eq_some_iff.mp read
        rw [known, Option.bind_some, ih tail rest]

theorem hexDigitsValue?_hexDigits (n : Nat) : hexDigitsValue? 0 (hexDigits n) = some n := by
  fun_induction hexDigits n with
  | case1 n small => simp [hexDigitsValue?, hexDigitValue?_hexDigit ⟨n, small⟩]
  | case2 n _ ih =>
      rw [hexDigitsValue?_append (hexDigits_hexDigits _) ⟨n % 16, by omega⟩ ih, Nat.div_add_mod]

theorem hexDigitsValue?_padded (width : Nat) (more : digits ≠ []) (hex : HexDigits digits) :
    hexDigitsValue? 0 (padded width digits) = hexDigitsValue? 0 digits := by
  unfold padded
  induction width - digits.length with
  | zero => rfl
  | succ count ih =>
      have separate : '_' ∉ List.replicate count '0' ++ digits := by
        simp [underscore_not_mem hex, List.mem_replicate]
      have zero : hexDigitValue? '0' = some 0 := hexDigitValue?_hexDigit 0
      rw [List.replicate_succ, List.cons_append, hexDigitsValue?_cons 0 '0' (by simp [more]) separate,
        zero]
      exact ih

theorem stripBlanks_of_not_blank {text : List Char} (visible : ∀ c ∈ text, isBlank c = false) :
    stripBlanks text = text := by
  have kept (text : List Char) (visible : ∀ c ∈ text, isBlank c = false) :
      text.dropWhile isBlank = text := by
    cases text with
    | nil => rfl
    | cons c rest => simp [visible c (by simp)]
  rw [stripBlanks, kept text visible, kept text.reverse (by simpa using visible), List.reverse_reverse]

theorem dropMark_marked (separate : '_' ∉ digits) : dropMark ('0' :: 'x' :: digits) = digits := by
  have zero : digitValue? '0' = some 0 := by decide
  cases digits with
  | nil => simp [dropMark, zero]
  | cons c rest =>
      have apart : c ≠ '_' := by
        rintro rfl
        simp at separate
      simp [dropMark, zero, apart]

theorem dropMark_digits (hex : HexDigits digits) : dropMark digits = digits := by
  have unmarked : ∀ d : Fin 16, hexDigit d.val ≠ 'x' ∧ hexDigit d.val ≠ 'X' := by decide
  match digits with
  | [] | [_] => rfl
  | z :: x :: rest =>
      obtain ⟨d, rfl⟩ := hex x (by simp)
      simp [dropMark, unmarked d]

theorem hexNumber?_marked (width n : Nat) : hexNumber? (marked width n) = some (n : Int) := by
  have hex := (hexDigits_hexDigits n).padded width
  have visible : ∀ c ∈ '0' :: 'x' :: padded width (hexDigits n), isBlank c = false := by
    intro c member
    rcases List.mem_cons.mp member with rfl | member
    · decide
    rcases List.mem_cons.mp member with rfl | member
    · decide
    · exact isBlank_of_hexDigits hex c member
  rw [hexNumber?, toList_marked, stripBlanks_of_not_blank visible]
  simp [dropMark_marked (underscore_not_mem hex), hexDigitsValue?_padded width (hexDigits_ne_nil n)
    (hexDigits_hexDigits n), hexDigitsValue?_hexDigits]

theorem hexNumber?_hex (width n : Nat) : hexNumber? (Numeral.hex width n) = some (n : Int) := by
  have hex := (hexDigits_hexDigits n).padded width
  have value : hexDigitsValue? 0 (dropMark (padded width (hexDigits n))) = some n := by
    rw [dropMark_digits hex, hexDigitsValue?_padded width (hexDigits_ne_nil n) (hexDigits_hexDigits n),
      hexDigitsValue?_hexDigits]
  rw [hexNumber?, toList_hex, stripBlanks_of_not_blank (isBlank_of_hexDigits hex)]
  split
  · rename_i rest same
    exact absurd (same ▸ List.mem_cons_self) (hex.not_mem (by decide) : '-' ∉ _)
  · rename_i rest same
    exact absurd (same ▸ List.mem_cons_self) (hex.not_mem (by decide) : '+' ∉ _)
  · rw [value]
    rfl

end Text

namespace Numeral

/-- A text of so many digits that stands for a number. -/
structure Shows (places : Nat) (n : Int) (text : String) : Prop where
  length : text.toList.length = places
  digits : ∀ c ∈ text.toList, c ∈ "0123456789ABCDEF".toList
  value : Text.hexNumber? text = some n

theorem shows_hex (width n : Nat) :
    Shows (max width (hexDigits n).length) n (hex width n) where
  length := by
    rw [toList_hex, padded, List.length_append, List.length_replicate]
    omega
  digits := by
    have upper : ∀ d : Fin 16, hexDigit d.val ∈ "0123456789ABCDEF".toList := by decide
    rw [toList_hex]
    intro c member
    obtain ⟨d, rfl⟩ := (hexDigits_hexDigits n).padded width c member
    exact upper d
  value := Text.hexNumber?_hex width n

theorem length_hexDigits_le {n places : Nat} (fits : n < 16 ^ (places + 1)) :
    (hexDigits n).length ≤ places + 1 := by
  induction places generalizing n with
  | zero =>
      unfold hexDigits
      rw [if_pos (by simpa using fits)]
      exact Nat.le_refl 1
  | succ places ih =>
      unfold hexDigits
      split
      · simp
      · have front := ih (n := n / 16) (by omega)
        rw [List.length_append, List.length_singleton]
        omega

theorem length_hexDigits_of_le {n : Nat} (few : n ≤ 16) :
    (hexDigits n).length = if n < 16 then 1 else 2 := by
  unfold hexDigits
  split
  · rfl
  · obtain rfl : n = 16 := by omega
    unfold hexDigits
    rfl

theorem shows_places {places n : Nat} (fits : n < 16 ^ (places + 1)) :
    Shows (places + 1) n (hex (places + 1) n) := by
  have shows := shows_hex (places + 1) n
  rwa [Nat.max_eq_left (length_hexDigits_le fits)] at shows

end Numeral

end Chip8
