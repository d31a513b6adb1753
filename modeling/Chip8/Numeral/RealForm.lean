import Chip8.Numeral.Double

namespace Chip8.Numeral

inductive RealForm where
  | places
  | exponent
  | shorter
  deriving DecidableEq, Repr

def Binary.places (value : Binary) : Nat := (-value.exponent).toNat

def Binary.shifted (value : Binary) (shift : Int) : Nat :=
  roundedQuotient (value.significand * Nat.pow 2 value.exponent.toNat * Nat.pow 10 shift.toNat)
    (Nat.pow 2 value.places * Nat.pow 10 (-shift).toNat)

/-- The power of ten of the first digit of a double; zero has its digit in front of the point. -/
def Binary.power (value : Binary) : Int :=
  let n := value.significand * Nat.pow 2 value.exponent.toNat
  let d := Nat.pow 2 value.places
  if n = 0 then 0
  else
    let guess : Int := Int.ofNat (decimalLength n) - Int.ofNat (decimalLength d)
    if d * Nat.pow 10 guess.toNat ≤ n * Nat.pow 10 (-guess).toNat then guess else guess - 1

def zeroFilled (count : Nat) (digits : List Char) : List Char :=
  digits ++ List.replicate (count - digits.length) '0'

/-- The first `count` decimal digits of a double, the last of them rounded, and the power of ten of
the first. Digits at the end that are zero may be left out. -/
def leadingDigits (value : Binary) (count : Nat) : List Char × Int :=
  let power := value.power
  let asked := min count (power + 1 + value.places).toNat
  let cut := value.shifted (Int.ofNat asked - 1 - power)
  if cut = Nat.pow 10 asked then (['1'], power + 1) else (Nat.toDigits 10 cut, power)

def pointed (marked : Bool) (whole : Nat) (digits : List Char) : List Char :=
  if digits.length ≤ whole ∧ !marked then digits
  else digits.take whole ++ '.' :: digits.drop whole

/-- Digits without the zeros at the end of those behind the first `whole`. -/
def withoutLastZeros (whole : Nat) (digits : List Char) : List Char :=
  digits.take whole ++ ((digits.drop whole).reverse.dropWhile (· == '0')).reverse

/-- A double written in a form. The precision is the number of digits behind the point, or of all
digits in the shorter form. -/
def RealForm.write (marked : Bool) (precision : Nat) (value : Binary) : RealForm → List Char
  | .places =>
      let kept := min precision value.places
      let digits := Nat.toDigits 10 (value.shifted kept)
      let whole := digits.length - kept
      let all := List.replicate (kept + 1 - digits.length) '0' ++ digits
      pointed marked (max 1 whole) (all ++ List.replicate (precision - kept) '0')
  | .exponent =>
      let (digits, power) := leadingDigits value (precision + 1)
      pointed marked 1 (zeroFilled (precision + 1) digits) ++ 'e' :: exponentText power
  | .shorter =>
      let count := max 1 precision
      let (digits, power) := leadingDigits value count
      let byPlaces := -4 ≤ power ∧ power < count
      let front := if byPlaces then List.replicate (-power).toNat '0' else []
      let whole := if byPlaces then power.toNat + 1 else 1
      let kept :=
        if marked then front ++ zeroFilled count digits
        else withoutLastZeros whole (front ++ zeroFilled (whole - front.length) digits)
      pointed marked whole kept ++ if byPlaces then [] else 'e' :: exponentText power

def binaryUnits : List String := ["bytes", "KiB", "MiB", "GiB", "TiB", "PiB", "EiB"]

def unitsText (value : Binary) : String :=
  String.ofList
    (if value.nearest < 1000 then RealForm.shorter.write true 3 value
      else RealForm.places.write true 0 value)

/-- A number of bytes in a unit. One that is nearly a whole next unit is shown in that. -/
def binarySize (bytes : Nat) : String :=
  let index := max 1 bytes.log2 / 10
  let shown (count : String) (index : Nat) := count ++ " " ++ binaryUnits.getD index ""
  match index, Binary.ofQuotient? bytes (Nat.pow 1024 index) with
  | 0, _ | _, none => shown (toString bytes) 0
  | _, some value =>
      if value.nearest = 1024 then
        shown (unitsText { value with exponent := value.exponent - 10 }) (index + 1)
      else shown (unitsText value) index

end Chip8.Numeral
