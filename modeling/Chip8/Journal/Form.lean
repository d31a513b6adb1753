import Chip8.Journal.Directive
import Chip8.Text.CodePoint

namespace Chip8.Journal

/-- A form with what its letter says about it. -/
inductive Form where
  | plain
  | quoted
  | asciiQuoted
  | character
  | decimal
  /-- A whole number in another base, and the mark of the base. -/
  | based (base : Nat) (mark : List Char) (upper : Bool)
  | real (form : Numeral.RealForm) (upper : Bool)
  deriving DecidableEq, Repr

def Form.ofLetter? : Char → Option Form
  | 's' => some .plain
  | 'r' => some .quoted
  | 'a' => some .asciiQuoted
  | 'c' => some .character
  | 'd' | 'i' | 'u' => some .decimal
  | 'o' => some (.based 8 ['0', 'o'] false)
  | 'x' => some (.based 16 ['0', 'x'] false)
  | 'X' => some (.based 16 ['0', 'X'] true)
  | 'e' => some (.real .exponent false)
  | 'E' => some (.real .exponent true)
  | 'f' | 'F' => some (.real .places false)
  | 'g' => some (.real .shorter false)
  | 'G' => some (.real .shorter true)
  | _ => none

/-- What stands in a place, and the entry that is made of it: a row of code points. -/
abbrev Entry := List Text.CodePoint

namespace Flags

def sign (flags : Flags) (value : Int) : List Char :=
  if value < 0 then ['-'] else if flags.signed then ['+'] else if flags.spaced then [' '] else []

def placeText (flags : Flags) (width : Nat) (text : Entry) : Entry :=
  let blanks := List.replicate (width - text.length) (Text.CodePoint.character ' ')
  if flags.leftmost then text ++ blanks else blanks ++ text

/-- A number in a place of a width. Zeros go between what leads it and its digits. -/
def placeNumber (flags : Flags) (width : Nat) (lead digits : List Char) : Entry :=
  let filled :=
    if flags.zeros && !flags.leftmost then
      lead ++ List.replicate (width - (lead ++ digits).length) '0' ++ digits
    else lead ++ digits
  flags.placeText width (filled.map .character)

end Flags

def atLeast (count : Nat) (digits : List Char) : List Char :=
  List.replicate (count - digits.length) '0' ++ digits

def cut (precision : Option Nat) (text : String) : Entry :=
  match precision with
  | some count => (Text.points text).take count
  | none => Text.points text

def pointOf : Field → Except Flaw Text.CodePoint
  | .text value =>
      match value.toList with
      | [c] => .ok (.character c)
      | _ => .error .notCharacter
  | .whole code =>
      match if 0 ≤ code then Text.CodePoint.ofCode? code.toNat else none with
      | some point => .ok point
      | none => .error .noSuchCharacter
  | _ => .error .notCharacter

/-- The largest number of digits that a whole number can be filled up to. -/
def maxFilled : Nat := SizeLimit.precision.largest - 3

def writeWhole (flags : Flags) (width : Nat) (precision : Option Nat) (mark : List Char)
    (digits : Nat → List Char) (value : Int) : Except Flaw Entry :=
  let least := precision.getD 0
  if maxFilled < least then .error .tooManyDigits
  else
    .ok (flags.placeNumber width (flags.sign value ++ if flags.marked then mark else [])
      (atLeast least (digits value.natAbs)))

/-- The digits of a real number that are asked for. The exponent form has one more than its precision,
which is none at all for the largest precision. -/
def askedDigits (form : Numeral.RealForm) (precision : Option Nat) : Nat :=
  let asked := precision.getD 6
  if form = .exponent ∧ SizeLimit.precision.largest ≤ asked then 0 else asked

def writeReal (flags : Flags) (width : Nat) (precision : Option Nat) (form : Numeral.RealForm)
    (upper : Bool) (negative : Bool) (size : Numeral.Binary) : Entry :=
  let text := form.write flags.marked (askedDigits form precision) size
  flags.placeNumber width (flags.sign (if negative then -1 else 0))
    (if upper then text.map Char.toUpper else text)

def Form.write (flags : Flags) (width : Nat) (precision : Option Nat) (letter : Char)
    (field : Field) : Form → Except Flaw Entry
  | .plain => .ok (flags.placeText width (cut precision field.plain))
  | .quoted => .ok (flags.placeText width (cut precision field.quoted))
  | .asciiQuoted => .ok (flags.placeText width (cut precision (Text.inAscii field.quoted)))
  | .character => (pointOf field).map fun point => flags.placeText width [point]
  | .decimal =>
      match field with
      | .whole value => writeWhole flags width precision [] (Nat.toDigits 10) value
      | .real value => writeWhole flags width precision [] (Nat.toDigits 10) value.whole
      | other => .error (.notDecimal letter other.kind)
  | .based base mark upper =>
      match field with
      | .whole value =>
          writeWhole flags width precision mark
            (fun size =>
              let digits := Nat.toDigits base size
              if upper then digits.map Char.toUpper else digits)
            value
      | other => .error (.notWhole letter other.kind)
  | .real form upper =>
      match field with
      | .whole value =>
          match Numeral.Binary.ofQuotient? value.natAbs 1 with
          | some size => .ok (writeReal flags width precision form upper (value < 0) size)
          | none => .error .beyondDoubles
      | .real value => .ok (writeReal flags width precision form upper false value)
      | other => .error (.notReal other.kind)

theorem Form.write_plain (flags : Flags) (width : Nat) (precision : Option Nat) (letter : Char)
    (field : Field) :
    Form.plain.write flags width precision letter field =
      .ok (flags.placeText width (cut precision field.plain)) := rfl

namespace Directive

def noRoom : Nat := Nat.pow 2 36

/-- What stands in a place of the entry of a record, when a field is waiting or none, and the field
that is waiting then. -/
def fill (origin : Origin) (record : Record) (waiting : Option Field) (directive : Directive) :
    Except Flaw (Entry × Option Field) := do
  let named ←
    match directive.name with
    | none => .ok waiting
    | some name =>
        match (record.fields origin).lookup name with
        | some field => .ok (some field)
        | none => .error (.unknownName name)
  let (width, afterWidth) ← directive.width.take .width named
  let (precision, afterPrecision) ← directive.precision.take .precision afterWidth
  let (letter, index) ← directive.ending
  match afterPrecision with
  | none => .error .noField
  | some field =>
      match Form.ofLetter? letter with
      | none => .error (.unknownLetter letter index)
      | some form =>
          let room := width.getD 0
          let text ← form.write directive.flags (if room < noRoom then room else 0) precision letter
            field
          if room < noRoom then .ok (text, none) else .error .tooLong

end Directive

end Chip8.Journal
