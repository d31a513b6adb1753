import Chip8.Numeral.Shortest

namespace Chip8.Numeral

/-- A quotient rounded to the nearest whole number, halves to the even one. -/
def roundedQuotient (n d : Nat) : Nat :=
  let below := n / d
  let rest := 2 * (n % d)
  if rest < d then below
  else if d < rest then below + 1
  else if below % 2 = 0 then below
  else below + 1

theorem roundedQuotient_mul (n : Nat) {d : Nat} (positive : 0 < d) :
    roundedQuotient (n * d) d = n := by
  simp [roundedQuotient, positive]

def roundedScale (n : Nat) (exponent : Int) : Nat :=
  roundedQuotient (n * Nat.pow 2 exponent.toNat) (Nat.pow 2 (-exponent).toNat)

/-- The exponent of the largest power of two that is not above a quotient greater than zero. -/
def quotientLog (n d : Nat) : Int :=
  let guess : Int := Int.ofNat n.log2 - Int.ofNat d.log2
  if d * Nat.pow 2 guess.toNat ≤ n * Nat.pow 2 (-guess).toNat then guess else guess - 1

/-- The exponent of the last binary digit of the double nearest to a quotient greater than zero. -/
def lastPlace (n d : Nat) : Int := max (-1074) (quotientLog n d - 52)

def quotientParts (n d : Nat) : Nat × Int :=
  if n = 0 then (0, 0)
  else
    let place := lastPlace n d
    (roundedQuotient (n * Nat.pow 2 (-place).toNat) (d * Nat.pow 2 place.toNat), place)

/-- The double nearest to a quotient, rounded to a whole number. There is none beyond the largest
double. -/
def wholeQuotient? (n d : Nat) : Option Nat :=
  let (number, place) := quotientParts n d
  let whole := roundedScale number place
  if whole < Nat.pow 2 1024 then some whole else none

def infinity : Float := 1.0 / 0.0

def notANumber : Float := 0.0 / 0.0

/-- The first number from `length` on, or after `fuel` steps, of which that many digits suffice for
`n`. -/
def lengthFrom (n : Nat) : Nat → Nat → Nat
  | 0, length => length
  | fuel + 1, length => if Nat.pow 10 length ≤ n then lengthFrom n fuel (length + 1) else length

/-- The number of decimal digits; zero has none. The search for it begins a little below, with the
number of binary digits times the logarithm of two. -/
def decimalLength (n : Nat) : Nat :=
  if n = 0 then 0 else lengthFrom n (n.log2 + 1) (n.log2 * 30102 / 100000)

/-- The double nearest to `mantissa` times ten to the power `exponent`. -/
def nearestDouble (mantissa : Nat) (exponent : Int) : Float :=
  let magnitude : Int := decimalLength mantissa + exponent
  if mantissa = 0 ∨ magnitude < -400 then 0.0
  else if 400 < magnitude then infinity
  else if 0 ≤ exponent then Float.ofScientific mantissa false exponent.toNat
  else Float.ofScientific mantissa true (-exponent).toNat

inductive Boundless where
  | infinite
  | notNumber
  deriving DecidableEq, Repr

def Boundless.message : Boundless → String
  | .infinite => "cannot convert float infinity to integer"
  | .notNumber => "cannot convert float NaN to integer"

/-- Turns the size of a double into a whole number and gives it the double's sign. -/
def wholeBy (size : Binary → Nat) (value : Float) : Except Boundless Int :=
  let bits := value.toBits.toNat
  let magnitude := bits % Nat.pow 2 63
  if 2047 * Nat.pow 2 52 < magnitude then .error .notNumber
  else if magnitude = 2047 * Nat.pow 2 52 then .error .infinite
  else
    let whole : Int := size (Binary.ofBits magnitude)
    .ok (if bits / Nat.pow 2 63 = 1 then -whole else whole)

def Binary.whole (binary : Binary) : Nat :=
  binary.significand * Nat.pow 2 binary.exponent.toNat / Nat.pow 2 (-binary.exponent).toNat

/-- The whole number nearest to a double that is not negative, of two the even one. -/
def Binary.nearest (binary : Binary) : Nat := roundedScale binary.significand binary.exponent

def truncated : Float → Except Boundless Int := wholeBy Binary.whole

/-- The whole number nearest to a double, of two the even one. -/
def rounded : Float → Except Boundless Int := wholeBy Binary.nearest

def Binary.ofQuotient? (n d : Nat) : Option Binary :=
  let (number, place) := quotientParts n d
  if Nat.pow 2 1024 ≤ roundedScale number place then none
  else if number = Nat.pow 2 53 then some ⟨Nat.pow 2 52, place + 1, true⟩
  else some ⟨number, place, number = Nat.pow 2 52 ∧ -1074 < place⟩

def doubleOf? (value : Int) : Option Float :=
  let size := nearestDouble value.natAbs 0
  if size == infinity then none else some (if value < 0 then -size else size)

end Chip8.Numeral
