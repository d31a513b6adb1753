/-! # The shortest text of a double

A double is a whole number times a power of two, and stands for all real numbers that round to it:
those up to half-way to its neighbours, the half-way points included if its own number is even. Of
these its text names the one with the fewest decimal digits, and of several such the nearest.

Powers of ten from -4 to 15 are written by places, the others with an exponent of at least two
digits. A whole number keeps one zero behind the point.
-/

namespace Chip8.Numeral

/-- A double greater than zero: `significand` times two to the power `exponent`. It is `narrow` if
the double below it is only half as far away as the one above. -/
structure Binary where
  significand : Nat
  exponent : Int
  narrow : Bool
  deriving DecidableEq, Repr

namespace Binary

def ofBits (bits : Nat) : Binary :=
  let field : Nat := bits / Nat.pow 2 52
  let fraction : Nat := bits % Nat.pow 2 52
  if field = 0 then ⟨fraction, -1074, false⟩
  else ⟨fraction + Nat.pow 2 52, field - 1075, fraction = 0 ∧ 1 < field⟩

/-- A quarter of the last place of the significand, and a unit of the grid of tens to the power `k`,
as whole multiples of one number. -/
def scales (binary : Binary) (k : Int) : Nat × Nat :=
  let quarter := binary.exponent - 2
  (Nat.pow 2 quarter.toNat * Nat.pow 10 (-k).toNat, Nat.pow 10 k.toNat * Nat.pow 2 (-quarter).toNat)

/-- Whether a multiple of ten to the power `k` rounds to the double. -/
def covers (binary : Binary) (k : Int) (multiple : Nat) : Bool :=
  let (quarter, unit) := binary.scales k
  let low := (4 * binary.significand - if binary.narrow then 1 else 2) * quarter
  let high := (4 * binary.significand + 2) * quarter
  let point := multiple * unit
  if binary.significand % 2 = 0 then low ≤ point && point ≤ high else low < point && point < high

/-- The multiple of ten to the power `k` that names the double, if one does: one of its two
neighbours on that grid, and of the two the nearer one, the even one in a tie. -/
def nameOn? (binary : Binary) (k : Int) : Option Nat :=
  let (quarter, unit) := binary.scales k
  let value := 4 * binary.significand * quarter
  let below := value / unit
  let above := below + 1
  let toBelow := value - below * unit
  let toAbove := above * unit - value
  let hitBelow := 0 < below && binary.covers k below
  let hitAbove := binary.covers k above
  let preferBelow := toBelow < toAbove || (toBelow == toAbove && below % 2 == 0)
  if hitBelow && (preferBelow || !hitAbove) then some below
  else if hitAbove then some above
  else none

/-- The coarsest grid, from ten to the power `k` on, that has a name for the double. -/
def coarsest (binary : Binary) : Nat → Int → Nat × Int
  | 0, k => (binary.significand, k)
  | fuel + 1, k =>
      match binary.nameOn? k with
      | some multiple => (multiple, k)
      | none => binary.coarsest fuel (k - 1)

/-- The decimal digits that name the double, and the power of ten of the last one. -/
def shortest (binary : Binary) : Nat × Int := binary.coarsest 640 309

end Binary

def exponentText (exponent : Int) : List Char :=
  let digits := Nat.toDigits 10 exponent.natAbs
  (if exponent < 0 then '-' else '+') ::
    (if digits.length < 2 then '0' :: digits else digits)

/-- The text of digits whose point stands behind the first `point` of them. -/
def placed (digits : List Char) (point : Int) : List Char :=
  if -4 < point ∧ point ≤ 16 then
    if point ≤ 0 then '0' :: '.' :: (List.replicate (-point).toNat '0' ++ digits)
    else if digits.length ≤ point.toNat then
      digits ++ List.replicate (point.toNat - digits.length) '0' ++ ['.', '0']
    else digits.take point.toNat ++ '.' :: digits.drop point.toNat
  else
    let mantissa :=
      match digits with
      | [] => []
      | [d] => [d]
      | d :: rest => d :: '.' :: rest
    mantissa ++ 'e' :: exponentText (point - 1)

def Binary.text (binary : Binary) : List Char :=
  if binary.significand = 0 then ['0', '.', '0']
  else
    let (number, power) := binary.shortest
    let digits := Nat.toDigits 10 number
    placed digits (digits.length + power)

def doubleText (value : Float) : String :=
  let bits := value.toBits.toNat
  let magnitude := bits % Nat.pow 2 63
  let sign := if bits / Nat.pow 2 63 = 1 then ['-'] else []
  if 2047 * Nat.pow 2 52 < magnitude then "nan"
  else if magnitude = 2047 * Nat.pow 2 52 then String.ofList (sign ++ ['i', 'n', 'f'])
  else String.ofList (sign ++ (Binary.ofBits magnitude).text)

end Chip8.Numeral
