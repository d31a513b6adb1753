import Chip8.Proofs.Hardware.Sprite
import Mathlib.Algebra.BigOperators.Fin
import Mathlib.Algebra.BigOperators.Group.Finset.Piecewise

/-! What is to be seen, by column and row. A sprite adds, at each place, the number of its bits that
fall there: the parity of that number says whether the pixel is flipped. As long as a sprite is no
higher than the picture, no two of its bits fall on one place, and its collision and the count of lit
pixels can be read off the pictures before and after. -/

namespace Chip8.Screen

open Finset

def picture (screen : Screen) (column : Fin 64) (row : Fin 32) : Bool :=
  screen.lit (cell column.val row.val)

/-- All that can be read from a screen agrees with a picture. -/
structure Shows (screen : Screen) (picture : Fin 64 → Fin 32 → Bool) : Prop where
  pixel : ∀ column row, screen.pixel column.val row.val = .ok (picture column row)
  rows : screen.rows =
    (List.finRange 32).map fun row => (List.finRange 64).map fun column => picture column row
  litCount : screen.litCount =
    (univ.filter fun place : Fin 64 × Fin 32 => picture place.1 place.2 = true).card

/-- Whether a row of bits, drawn from column `x` on, sets the bit of a column. The bits are the low
eight of the number, and the columns go around. -/
def SetsBit (x bits : Int) (column : Fin 64) : Prop :=
  (column.val - x) % 64 ≤ 7 ∧ bits.testBit (7 - ((column.val - x) % 64).toNat) = true

instance (x bits : Int) (column : Fin 64) : Decidable (SetsBit x bits column) :=
  inferInstanceAs (Decidable (_ ∧ _))

/-- How many rows of a sprite at `(x, y)` fall on a row of the picture and set the bit of a column. -/
def flips (x y : Int) (sprite : List Int) (column : Fin 64) (row : Fin 32) : Nat :=
  sprite.zipIdx.countP fun entry =>
    decide ((y + entry.2) % 32 = row.val ∧ SetsBit x entry.1 column)

def switchedOff (before after : Screen) : Nat :=
  (univ.filter fun place : Fin 64 × Fin 32 =>
    before.picture place.1 place.2 = true ∧ after.picture place.1 place.2 = false).card

/-- What a sprite, drawn at `(x, y)` on a screen, does to the picture. -/
structure Drawing (screen : Screen) (x y : Int) (sprite : List Int) : Prop where
  shown : screen.Shows screen.picture
  shownAfter : (screen.draw x y sprite).1.Shows (screen.draw x y sprite).1.picture
  flipped : ∀ column row, (screen.draw x y sprite).1.picture column row =
    (screen.picture column row ^^ decide (flips x y sprite column row % 2 = 1))
  struck : sprite.length ≤ 32 → ((screen.draw x y sprite).2 = true ↔ ∃ column row,
    screen.picture column row = true ∧ (screen.draw x y sprite).1.picture column row = false)
  litCount : sprite.length ≤ 32 →
    (screen.draw x y sprite).1.litCount + 2 * switchedOff screen (screen.draw x y sprite).1 =
      screen.litCount + setBits sprite
  /-- The picture has no edges. -/
  around : ∀ a b, screen.draw (x + 64 * a) (y + 32 * b) sprite = screen.draw x y sprite

variable (screen : Screen) (x y : Int)

theorem place_bijective :
    Function.Bijective fun place : Fin 64 × Fin 32 => cell place.1.val place.2.val := by
  rw [Fintype.bijective_iff_injective_and_card]
  refine ⟨?_, by simp⟩
  rintro ⟨column, row⟩ ⟨column', row'⟩ same
  obtain ⟨columns, rows⟩ := cell_eq_iff.mp same
  exact Prod.ext (Fin.ext (by omega)) (Fin.ext (by omega))

theorem exists_place_iff {P : Fin 2048 → Prop} :
    (∃ here, P here) ↔ ∃ (column : Fin 64) (row : Fin 32), P (cell column.val row.val) :=
  place_bijective.2.exists.trans Prod.exists

theorem sum_places (weight : Fin 2048 → Nat) :
    ∑ place : Fin 64 × Fin 32, weight (cell place.1.val place.2.val) = ∑ here, weight here :=
  place_bijective.sum_comp weight

theorem litCount_eq_sum : screen.litCount = ∑ here, (screen.lit here).toNat := by
  have cells : screen.pixels.toList = (List.finRange 2048).map screen.lit := by
    refine List.ext_getElem (by simp) fun k _ _ => ?_
    rw [Vector.getElem_toList, List.getElem_map, List.getElem_finRange]
    rfl
  have counted := (List.nodup_finRange 2048).card_eq_countP (P := fun here => screen.lit here = true)
  rw [List.toFinset_finRange, card_filter] at counted
  have bits : (fun here => decide (screen.lit here = true)) = id ∘ screen.lit :=
    funext fun _ => Bool.decide_eq_true
  rw [bits] at counted
  rw [litCount, ← Vector.countP_toList, cells, List.countP_map]
  calc (List.finRange 2048).countP (id ∘ screen.lit)
      = ∑ here, if screen.lit here = true then 1 else 0 := counted.symm
    _ = ∑ here, (screen.lit here).toNat := by simp only [Bool.toNat, Bool.cond_eq_ite]

theorem shows_picture : screen.Shows screen.picture where
  pixel column row := by
    have inside : 0 ≤ (column.val : Int) ∧ (column.val : Int) < width ∧ 0 ≤ (row.val : Int) ∧
        (row.val : Int) < height := by
      simp only [width, height]
      omega
    exact if_pos inside
  rows := by
    simp only [rows, height, width, ← List.map_coe_finRange_eq_range, List.map_map]
    rfl
  litCount := by
    rw [litCount_eq_sum, ← sum_places, card_filter]
    simp only [picture, Bool.toNat, Bool.cond_eq_ite]
    rfl

theorem mem_rowCells_iff {bits : Int} {column : Fin 64} {row : Fin 32} :
    cell column.val row.val ∈ rowCells x y bits ↔ y % 32 = row.val ∧ SetsBit x bits column := by
  simp only [rowCells, List.mem_map, List.mem_filter, List.mem_range, rowBit_eq, cell_eq_iff, SetsBit]
  constructor
  · rintro ⟨offset, ⟨few, set⟩, columns, rows⟩
    have place : ((column.val : Int) - x) % 64 = offset := by omega
    refine ⟨by omega, by omega, ?_⟩
    rw [place]
    exact set
  · rintro ⟨rows, near, set⟩
    exact ⟨(((column.val : Int) - x) % 64).toNat, ⟨by omega, set⟩, by omega, by omega⟩

theorem nodup_rowCells (bits : Int) : (rowCells x y bits).Nodup := by
  refine List.Nodup.map_on ?_ (List.nodup_range.filter _)
  intro offset member offset' member' same
  have few := List.mem_range.mp (List.mem_of_mem_filter member)
  have few' := List.mem_range.mp (List.mem_of_mem_filter member')
  have columns := (cell_eq_iff.mp same).1
  omega

theorem count_spriteCells (sprite : List Int) (start : Nat) (column : Fin 64) (row : Fin 32) :
    (spriteCells x (y + start) sprite).count (cell column.val row.val) =
      (sprite.zipIdx start).countP fun entry =>
        decide ((y + entry.2) % 32 = row.val ∧ SetsBit x entry.1 column) := by
  induction sprite generalizing start with
  | nil => rfl
  | cons bits rest ih =>
      have next : y + start + 1 = y + (start + 1 : Nat) := by omega
      rw [spriteCells, List.count_append, next, ih, List.zipIdx_cons, List.countP_cons,
        (nodup_rowCells x _ bits).count]
      simp only [mem_rowCells_iff, decide_eq_true_eq]
      rw [Nat.add_comm]

theorem count_eq_flips (sprite : List Int) (column : Fin 64) (row : Fin 32) :
    (spriteCells x y sprite).count (cell column.val row.val) = flips x y sprite column row := by
  have started := count_spriteCells x y sprite 0 column row
  rw [Int.natCast_zero, Int.add_zero] at started
  exact started

theorem row_of_mem_spriteCells {sprite : List Int} {here : Fin 2048}
    (member : here ∈ spriteCells x y sprite) :
    ∃ (offset : Nat) (column : Int), offset < sprite.length ∧ here = cell column (y + offset) := by
  induction sprite generalizing y with
  | nil => cases member
  | cons bits rest ih =>
      rcases List.mem_append.mp member with first | later
      · obtain ⟨column, _, rfl⟩ := List.mem_map.mp first
        exact ⟨0, x + column, Nat.succ_pos _, by simp⟩
      · obtain ⟨offset, column, inside, rfl⟩ := ih (y + 1) later
        refine ⟨offset + 1, column, Nat.succ_lt_succ inside, ?_⟩
        congr 1
        omega

/-- A sprite that is no higher than the picture has no two bits at one place. -/
theorem nodup_spriteCells {sprite : List Int} (low : sprite.length ≤ 32) :
    (spriteCells x y sprite).Nodup := by
  induction sprite generalizing y with
  | nil => exact List.nodup_nil
  | cons bits rest ih =>
      have shorter : rest.length ≤ 31 := Nat.le_of_succ_le_succ low
      refine (nodup_rowCells x y bits).append (ih (y + 1) (by omega)) ?_
      intro here first later
      obtain ⟨column, _, rfl⟩ := List.mem_map.mp first
      obtain ⟨offset, other, inside, same⟩ := row_of_mem_spriteCells x (y + 1) later
      have rows := (cell_eq_iff.mp same).2
      omega

theorem spriteCells_around (a b : Int) (sprite : List Int) :
    spriteCells (x + 64 * a) (y + 32 * b) sprite = spriteCells x y sprite := by
  induction sprite generalizing y with
  | nil => rfl
  | cons bits rest ih =>
      have below : y + 32 * b + 1 = y + 1 + 32 * b := by omega
      have first : rowCells (x + 64 * a) (y + 32 * b) bits = rowCells x y bits :=
        List.map_congr_left fun column _ => cell_eq_iff.mpr ⟨by omega, by omega⟩
      rw [spriteCells, spriteCells, first, below, ih]

theorem picture_draw (sprite : List Int) (column : Fin 64) (row : Fin 32) :
    (screen.draw x y sprite).1.picture column row =
      (screen.picture column row ^^ decide (flips x y sprite column row % 2 = 1)) := by
  rw [← count_eq_flips]
  exact screen.lit_strikeAll false _ _

theorem lit_draw_of_low {sprite : List Int} (low : sprite.length ≤ 32) (here : Fin 2048) :
    (screen.draw x y sprite).1.lit here =
        (screen.lit here ^^ decide ((spriteCells x y sprite).count here = 1)) ∧
      (spriteCells x y sprite).count here ≤ 1 := by
  have once := List.nodup_iff_count_le_one.mp (nodup_spriteCells x y low) here
  have parity : (spriteCells x y sprite).count here % 2 = 1 ↔
      (spriteCells x y sprite).count here = 1 := by omega
  refine ⟨?_, once⟩
  rw [← decide_eq_decide.mpr parity]
  exact screen.lit_strikeAll false _ _

theorem struck_iff_of_low {sprite : List Int} (low : sprite.length ≤ 32) :
    (screen.draw x y sprite).2 = true ↔ ∃ column row,
      screen.picture column row = true ∧ (screen.draw x y sprite).1.picture column row = false := by
  refine (screen.hit_strikeAll (spriteCells x y sprite)).trans ?_
  rw [exists_place_iff]
  refine exists_congr fun column => exists_congr fun row => ?_
  obtain ⟨after, once⟩ := screen.lit_draw_of_low x y low (cell column.val row.val)
  simp only [picture, after]
  cases screen.lit (cell column.val row.val) with
  | false =>
      simp
      omega
  | true =>
      simp
      omega

theorem switchedOff_eq_sum (before after : Screen) :
    switchedOff before after =
      ∑ here, if before.lit here = true ∧ after.lit here = false then 1 else 0 := by
  rw [switchedOff, card_filter,
    ← sum_places fun here => if before.lit here = true ∧ after.lit here = false then 1 else 0]
  rfl

theorem litCount_draw_of_low {sprite : List Int} (low : sprite.length ≤ 32) :
    (screen.draw x y sprite).1.litCount + 2 * switchedOff screen (screen.draw x y sprite).1 =
      screen.litCount + setBits sprite := by
  have bits : ∑ here, (spriteCells x y sprite).count here = setBits sprite := by
    have all := Multiset.sum_count_eq_card (s := univ) (m := Multiset.ofList (spriteCells x y sprite))
      fun here _ => mem_univ here
    simpa [length_spriteCells] using all
  have each (here : Fin 2048) :
      ((screen.draw x y sprite).1.lit here).toNat + 2 *
          (if screen.lit here = true ∧ (screen.draw x y sprite).1.lit here = false then 1 else 0) =
        (screen.lit here).toNat + (spriteCells x y sprite).count here := by
    obtain ⟨after, once⟩ := screen.lit_draw_of_low x y low here
    rw [after]
    have few : (spriteCells x y sprite).count here = 0 ∨ (spriteCells x y sprite).count here = 1 := by
      omega
    rcases few with none | one
    · cases lit : screen.lit here <;> simp [none]
    · cases lit : screen.lit here <;> simp [one]
  rw [litCount_eq_sum, litCount_eq_sum, switchedOff_eq_sum, mul_sum, ← sum_add_distrib, ← bits,
    ← sum_add_distrib]
  exact sum_congr rfl fun here _ => each here

/-- A drawing flips the pixels at which the sprite has an odd number of bits. If the sprite is no
higher than the picture, it collides exactly if it switches a pixel off, and the count of lit pixels
grows by its bits, less two for each pixel that is switched off. -/
theorem drawing (sprite : List Int) : Drawing screen x y sprite where
  shown := screen.shows_picture
  shownAfter := shows_picture _
  flipped := screen.picture_draw x y sprite
  struck := screen.struck_iff_of_low x y
  litCount := screen.litCount_draw_of_low x y
  around a b := by
    unfold draw
    rw [spriteCells_around]

/-- The digit zero, four columns wide. -/
def zeroGlyph : List Int := [0xF0, 0x90, 0x90, 0x90, 0xF0]

theorem dark_picture (column : Fin 64) (row : Fin 32) : dark.picture column row = false := by
  simp [picture, lit, dark]

/-- On the dark picture, around both edges: no collision, all bits of the digit are lit, and its right
side comes back at the left. -/
theorem zeroGlyph_drawing :
    zeroGlyph.length ≤ 32 ∧ Drawing dark 62 30 zeroGlyph ∧
      (dark.draw 62 30 zeroGlyph).2 = false ∧ (dark.draw 62 30 zeroGlyph).1.litCount = 14 ∧
      (dark.draw 62 30 zeroGlyph).1.picture 1 0 = true := by
  have low : zeroGlyph.length ≤ 32 := by decide
  have drawn := dark.drawing 62 30 zeroGlyph
  have count := drawn.litCount low
  have none : dark.litCount = 0 := by
    rw [drawn.shown.litCount]
    simp [dark_picture]
  have noneOff : switchedOff dark (dark.draw 62 30 zeroGlyph).1 = 0 := by
    simp [switchedOff, dark_picture]
  refine ⟨low, drawn, ?_, ?_, ?_⟩
  · rw [Bool.eq_false_iff, Ne, drawn.struck low]
    simp [dark_picture]
  · have bits : setBits zeroGlyph = 14 := by decide
    omega
  · rw [drawn.flipped, dark_picture]
    decide

end Chip8.Screen
