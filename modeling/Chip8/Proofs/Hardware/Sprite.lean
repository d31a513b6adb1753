import Chip8.Hardware.Screen
import Mathlib.Data.Int.Bitwise

/-! # Drawing as flipping

A sprite strikes a list of cells one after another. Neither the picture nor the collision depends on
the order of the list, only on how often each cell stands in it: a cell is flipped if it stands there
an odd number of times, and there is a collision if some cell is struck while it is lit. From this it
follows how two drawings combine.
-/

namespace Chip8.Screen

variable (screen : Screen) (state : Screen × Bool)

theorem ext_lit {one other : Screen} (same : ∀ cell, one.lit cell = other.lit cell) :
    one = other := by
  obtain ⟨ones⟩ := one
  obtain ⟨others⟩ := other
  congr 1
  exact Vector.ext fun k bound => same ⟨k, bound⟩

theorem strike_comm (a b : Fin 2048) : strike (strike state a) b = strike (strike state b) a := by
  obtain ⟨screen, hit⟩ := state
  by_cases same : a = b
  · rw [same]
  have apart : b ≠ a := fun equal => same equal.symm
  refine Prod.ext (ext_lit fun cell => ?_) ?_
  · simp only [strike, lit_flip]
    by_cases first : a = cell <;> by_cases second : b = cell <;> simp [first, second]
  · simp only [strike, lit_flip, if_neg same, if_neg apart]
    rw [Bool.or_assoc, Bool.or_assoc, Bool.or_comm (screen.lit a)]

def strikeAll (cells : List (Fin 2048)) : Screen × Bool := cells.foldl strike state

theorem strikeAll_append (first second : List (Fin 2048)) :
    strikeAll state (first ++ second) = strikeAll (strikeAll state first) second :=
  List.foldl_append

theorem strikeAll_perm {cells others : List (Fin 2048)} (same : cells.Perm others) :
    strikeAll state cells = strikeAll state others :=
  same.foldl_eq' (fun a _ b _ state => strike_comm state a b) state

theorem strikeAll_noted (hit : Bool) (cells : List (Fin 2048)) :
    strikeAll (screen, hit) cells =
      ((strikeAll (screen, false) cells).1, hit || (strikeAll (screen, false) cells).2) := by
  induction cells generalizing screen hit with
  | nil => simp [strikeAll]
  | cons cell rest ih =>
      change strikeAll (screen.flip cell, hit || screen.lit cell) rest =
        ((strikeAll (screen.flip cell, false || screen.lit cell) rest).1,
          hit || (strikeAll (screen.flip cell, false || screen.lit cell) rest).2)
      rw [ih, ih (screen.flip cell) (false || screen.lit cell), Bool.false_or, Bool.or_assoc]

theorem lit_strikeAll (hit : Bool) (cells : List (Fin 2048)) (cell : Fin 2048) :
    (strikeAll (screen, hit) cells).1.lit cell =
      (screen.lit cell ^^ decide (cells.count cell % 2 = 1)) := by
  induction cells generalizing screen hit with
  | nil => simp [strikeAll]
  | cons first rest ih =>
      change (strikeAll (screen.flip first, hit || screen.lit first) rest).1.lit cell = _
      rw [ih, lit_flip, List.count_cons]
      by_cases struck : first = cell
      · have parity : decide ((rest.count cell + 1) % 2 = 1) = !decide (rest.count cell % 2 = 1) := by
          rw [← decide_not, decide_eq_decide]
          omega
        rw [if_pos struck, if_pos (beq_iff_eq.mpr struck), parity, Bool.not_xor, Bool.xor_not]
      · simp [struck]

/-- There is a collision if a cell is struck that is lit, or one is struck twice: the second time it
is lit, if it was not the first time. -/
theorem hit_strikeAll (cells : List (Fin 2048)) :
    (strikeAll (screen, false) cells).2 = true ↔
      ∃ cell, 2 ≤ (screen.lit cell).toNat + cells.count cell := by
  induction cells generalizing screen with
  | nil =>
      have dim (cell : Fin 2048) : (screen.lit cell).toNat ≤ 1 := Bool.toNat_le _
      simp only [strikeAll, List.foldl_nil, List.count_nil, Bool.false_eq_true, false_iff]
      rintro ⟨cell, twice⟩
      have := dim cell
      omega
  | cons first rest ih =>
      change (strikeAll (screen.flip first, false || screen.lit first) rest).2 = true ↔ _
      rw [strikeAll_noted, Bool.or_eq_true, ih, Bool.false_or]
      cases lit : screen.lit first with
      | true =>
          -- The first strike meets a lit cell.
          simp only [true_or, true_iff]
          refine ⟨first, ?_⟩
          rw [lit, List.count_cons_self, Bool.toNat_true]
          omega
      | false =>
          -- What the first strike adds to the count, it adds to the light that the others meet.
          simp only [Bool.false_eq_true, false_or]
          refine exists_congr fun cell => ?_
          rw [lit_flip, List.count_cons]
          by_cases struck : first = cell
          · subst struck
            simp only [lit, if_true, Bool.not_false, Bool.toNat_true, Bool.toNat_false, beq_self_eq_true]
            omega
          · simp [struck]

variable (x y : Int)

theorem cell_eq_iff {x y x' y' : Int} :
    cell x y = cell x' y' ↔ x % 64 = x' % 64 ∧ y % 32 = y' % 32 := by
  simp only [cell, Fin.mk.injEq]
  omega

theorem rowBit_eq (row : Int) (column : Nat) : rowBit row column = row.testBit (7 - column) := by
  unfold rowBit
  cases row with
  | ofNat n =>
      change decide ((n : Int) / (2 ^ (7 - column) : Nat) % 2 = 1) = n.testBit (7 - column)
      rw [Nat.testBit_eq_decide_div_mod_eq, decide_eq_decide]
      omega
  | negSucc n =>
      -- Below zero the bits are those of the complement, and division rounds down.
      have down : Int.negSucc n / (2 ^ (7 - column) : Nat) = -((n / 2 ^ (7 - column) : Nat) + 1) :=
        Int.negSucc_ediv n (Int.natCast_pos.mpr (Nat.two_pow_pos _))
      change decide (Int.negSucc n / (2 ^ (7 - column) : Nat) % 2 = 1) = !n.testBit (7 - column)
      rw [down, Nat.testBit_eq_decide_div_mod_eq, ← decide_not, decide_eq_decide]
      omega

/-- The number of set bits in a sprite, of each row of which the low eight bits count. -/
def setBits (sprite : List Int) : Nat :=
  (sprite.map fun row => (List.range 8).countP row.testBit).sum

theorem setBits_pos_iff (sprite : List Int) :
    0 < setBits sprite ↔ ∃ row ∈ sprite, ∃ n < 8, row.testBit n = true := by
  simp [setBits, List.sum_pos_iff_exists_pos_nat, List.countP_pos_iff]

theorem length_rowCells (row : Int) :
    (rowCells x y row).length = (List.range 8).countP row.testBit := by
  have mirrored : (List.range 8).map (7 - ·) = (List.range 8).reverse := by decide
  have bits : rowBit row = row.testBit ∘ (7 - ·) := funext fun column => rowBit_eq row column
  rw [rowCells, List.length_map, ← List.countP_eq_length_filter, bits, ← List.countP_map, mirrored,
    List.countP_reverse]

theorem length_spriteCells (sprite : List Int) :
    (spriteCells x y sprite).length = setBits sprite := by
  induction sprite generalizing y with
  | nil => rfl
  | cons row rest ih =>
      rw [spriteCells, List.length_append, length_rowCells, ih, setBits, setBits, List.map_cons,
        List.sum_cons]

theorem spriteCells_append (first second : List Int) :
    spriteCells x y (first ++ second) =
      spriteCells x y first ++ spriteCells x (y + first.length) second := by
  induction first generalizing y with
  | nil => simp [spriteCells]
  | cons row rest ih =>
      have place : y + 1 + rest.length = y + (row :: rest).length := by
        simp only [List.length_cons]
        omega
      rw [List.cons_append, spriteCells, spriteCells, ih, List.append_assoc, place]

/-- Draws a sprite where another one was drawn, and notes whether either of them met a lit pixel. -/
def andDraw (drawn : Screen × Bool) (x y : Int) (sprite : List Int) : Screen × Bool :=
  ((drawn.1.draw x y sprite).1, drawn.2 || (drawn.1.draw x y sprite).2)

theorem andDraw_eq (x' y' : Int) (first second : List Int) :
    andDraw (screen.draw x y first) x' y' second =
      strikeAll (screen, false) (spriteCells x y first ++ spriteCells x' y' second) := by
  rw [strikeAll_append]
  exact (strikeAll_noted _ _ _).symm

/-- Struck twice each, all cells are as before, and there was a collision if there were any. -/
theorem strikeAll_twice (cells : List (Fin 2048)) :
    (strikeAll (screen, false) (cells ++ cells)).1 = screen ∧
      ((strikeAll (screen, false) (cells ++ cells)).2 = true ↔ 0 < cells.length) := by
  constructor
  · refine ext_lit fun cell => ?_
    have even : ¬(cells.count cell + cells.count cell) % 2 = 1 := by omega
    rw [lit_strikeAll, List.count_append, decide_eq_false even, Bool.xor_false]
  · rw [hit_strikeAll, List.length_pos_iff_exists_mem]
    refine exists_congr fun cell => ?_
    have dim : (screen.lit cell).toNat ≤ 1 := Bool.toNat_le _
    rw [List.count_append, ← List.count_pos_iff]
    omega

/-- Drawing a sprite twice at one place changes nothing, and one of the two drawings meets a lit
pixel unless the sprite is blank. Two sprites may be drawn in either order. A sprite is drawn whole or
in two parts, one below the other. -/
theorem draw_combines (x' y' : Int) (first second : List Int) :
    (andDraw (screen.draw x y first) x y first).1 = screen ∧
      ((andDraw (screen.draw x y first) x y first).2 = true ↔
        ∃ row ∈ first, ∃ n < 8, row.testBit n = true) ∧
      andDraw (screen.draw x y first) x' y' second = andDraw (screen.draw x' y' second) x y first ∧
      screen.draw x y (first ++ second) =
        andDraw (screen.draw x y first) x (y + first.length) second := by
  have twice := screen.strikeAll_twice (spriteCells x y first)
  rw [← andDraw_eq, length_spriteCells, setBits_pos_iff] at twice
  refine ⟨twice.1, twice.2, ?_, ?_⟩
  · rw [andDraw_eq, andDraw_eq]
    exact strikeAll_perm _ List.perm_append_comm
  · rw [andDraw_eq, ← spriteCells_append]
    rfl

end Chip8.Screen
