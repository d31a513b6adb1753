import Chip8.Fault

/-! A picture of 64 by 32 pixels, each lit or dark, stored row by row. A sprite is drawn by flipping
pixels: each of its bytes is a row of eight, the most significant bit leftmost, and a set bit flips
the pixel it falls on. The picture has no edges; what leaves it on one side comes back on the other.
-/

namespace Chip8

/-- Which pixels are lit, row by row. -/
structure Screen where
  pixels : Vector Bool 2048
  deriving DecidableEq

namespace Screen

def width : Nat := 64

def height : Nat := 32

def dark : Screen := ⟨Vector.replicate 2048 false⟩

/-- The cell of a column and a row, both taken around the edges. -/
def cell (x y : Int) : Fin 2048 := ⟨((y % 32) * 64 + x % 64).toNat, by omega⟩

def lit (screen : Screen) (cell : Fin 2048) : Bool := screen.pixels[cell]

/-- Whether a pixel of the picture is lit. Outside the picture there is no answer. -/
def pixel (screen : Screen) (x y : Int) : Except Failure Bool :=
  if 0 ≤ x ∧ x < width ∧ 0 ≤ y ∧ y < height then .ok (screen.lit (cell x y))
  else .error (.noPixel x y)

def flip (screen : Screen) (cell : Fin 2048) : Screen :=
  ⟨screen.pixels.set cell (!screen.lit cell)⟩

theorem lit_flip (screen : Screen) (cell other : Fin 2048) :
    (screen.flip cell).lit other = if cell = other then !screen.lit other else screen.lit other := by
  simp only [flip, lit, Fin.getElem_fin, Vector.getElem_set]
  by_cases same : cell = other
  · subst same
    simp
  · have apart : cell.val ≠ other.val := fun equal => same (Fin.ext equal)
    simp [same, apart]

/-- Whether a row of a sprite has its bit set in a column from 0 to 7. -/
def rowBit (row : Int) (column : Nat) : Bool := row / Nat.pow 2 (7 - column) % 2 = 1

def rowCells (x y row : Int) : List (Fin 2048) :=
  ((List.range 8).filter (rowBit row)).map fun (column : Nat) => cell (x + column) y

def spriteCells (x y : Int) : List Int → List (Fin 2048)
  | [] => []
  | row :: rest => rowCells x y row ++ spriteCells x (y + 1) rest

/-- Flips one cell, and notes in `hit` whether it was lit. -/
def strike (state : Screen × Bool) (cell : Fin 2048) : Screen × Bool :=
  (state.1.flip cell, state.2 || state.1.lit cell)

def draw (screen : Screen) (x y : Int) (sprite : List Int) : Screen × Bool :=
  (spriteCells x y sprite).foldl strike (screen, false)

def litCount (screen : Screen) : Nat := screen.pixels.countP id

def rows (screen : Screen) : List (List Bool) :=
  (List.range height).map fun (y : Nat) => (List.range width).map fun (x : Nat) => screen.lit (cell x y)

def describe (screen : Screen) : String :=
  "<Display 64x32 lit=" ++ toString screen.litCount ++ ">"

end Screen

end Chip8
