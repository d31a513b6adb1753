import Chip8.Journal.Field
import Chip8.Numeral.RealForm

/-! # Places of a template

A place is where a template takes up a field of a record. It is written with a percent sign, the
field's name in parentheses, flags, the number of characters that it takes up at least, a point with
a precision, a letter for the size of the field, which says nothing, and the letter of a form. All but
the first and the last may be left out; a place without a name takes the field that is waiting, which
the place before it has used up as a rule.
-/

namespace Chip8.Journal

/-- Why no entry can be made by a template. -/
inductive Flaw where
  | noPlace (template : String)
  | unclosedName
  | unfinished
  | tooWide
  | tooPrecise
  /-- The entry would not fit into any memory. -/
  | tooLong
  | unknownName (name : String)
  | noField
  /-- A width or precision has to come from a field that is no whole number. -/
  | sizeNotWhole
  /-- A width or precision comes from a field and does not fit into a word of this type. -/
  | sizeBeyond (word : String)
  /-- A whole number is to have more digits than any text. -/
  | tooManyDigits
  | notDecimal (letter : Char) (kind : String)
  | notWhole (letter : Char) (kind : String)
  | notReal (kind : String)
  | notCharacter
  | noSuchCharacter
  | beyondDoubles
  | unknownLetter (letter : Char) (index : Nat)
  deriving DecidableEq, Repr

def shownLetter (letter : Char) : Char :=
  if 31 ≤ letter.toNat ∧ letter.toNat < 127 then letter else '?'

def Flaw.message : Flaw → String
  | .noPlace template => "Invalid format \x27" ++ template ++ "\x27 for \x27%\x27 style"
  | .unclosedName => "incomplete format key"
  | .unfinished => "incomplete format"
  | .tooWide => "width too big"
  | .tooPrecise => "precision too big"
  | .tooLong => ""
  | .unknownName name => "Formatting field not found in record: " ++ Text.quoted name
  | .noField => "not enough arguments for format string"
  | .sizeNotWhole => "* wants int"
  | .sizeBeyond word => "Python int too large to convert to C " ++ word
  | .tooManyDigits => "precision too large"
  | .notDecimal letter kind =>
      "%" ++ String.singleton letter ++ " format: a real number is required, not " ++ kind
  | .notWhole letter kind =>
      "%" ++ String.singleton letter ++ " format: an integer is required, not " ++ kind
  | .notReal kind => "must be real number, not " ++ kind
  | .notCharacter => "%c requires int or char"
  | .noSuchCharacter => "%c arg not in range(0x110000)"
  | .beyondDoubles => "int too large to convert to float"
  | .unknownLetter letter index =>
      "unsupported format character \x27" ++ String.singleton (shownLetter letter) ++ "\x27 (0x" ++
        String.ofList (Nat.toDigits 16 letter.toNat) ++ ") at index " ++ toString index

structure Flags where
  leftmost : Bool
  signed : Bool
  spaced : Bool
  /-- A number shows its base, or its point. -/
  marked : Bool
  zeros : Bool
  deriving DecidableEq, Repr

def Flags.none : Flags := ⟨false, false, false, false, false⟩

def Flags.add? (flags : Flags) : Char → Option Flags
  | '-' => some { flags with leftmost := true }
  | '+' => some { flags with signed := true }
  | ' ' => some { flags with spaced := true }
  | '#' => some { flags with marked := true }
  | '0' => some { flags with zeros := true }
  | _ => Option.none

/-- Flags with those at the beginning of a text, and what is behind them. -/
def Flags.read (flags : Flags) : List Char → Flags × List Char
  | [] => (flags, [])
  | c :: rest =>
      match flags.add? c with
      | some more => more.read rest
      | Option.none => (flags, c :: rest)

inductive Size where
  | unset
  | given (size : Nat)
  | waiting
  deriving DecidableEq, Repr

def Size.read : List Char → Size × List Char
  | '*' :: rest => (.waiting, rest)
  | text =>
      match text.takeWhile Char.isDigit with
      | [] => (.unset, text)
      | digits =>
          (.given (digits.foldl (fun total c => 10 * total + (c.toNat - 48)) 0),
            text.dropWhile Char.isDigit)

/-- The precision at the beginning of a text. A point alone is a precision of zero. -/
def Size.readPrecision : List Char → Size × List Char
  | '.' :: text =>
      match Size.read text with
      | (.unset, rest) => (.given 0, rest)
      | other => other
  | text => (.unset, text)

/-- The limits of a size: the largest one, the flaw of a larger one in a template, and the type of the
word into which it goes. -/
structure SizeLimit where
  largest : Nat
  above : Flaw
  word : String
  deriving DecidableEq, Repr

def SizeLimit.width : SizeLimit := ⟨Nat.pow 2 63 - 1, .tooWide, "ssize_t"⟩

def SizeLimit.precision : SizeLimit := ⟨Nat.pow 2 31 - 1, .tooPrecise, "int"⟩

/-- A size within its limits. A field that is asked for it is used up. -/
def Size.take (size : Size) (limit : SizeLimit) (waiting : Option Field) :
    Except Flaw (Option Nat × Option Field) :=
  match size, waiting with
  | .unset, _ => .ok (Option.none, waiting)
  | .given n, _ => if limit.largest < n then .error limit.above else .ok (some n, waiting)
  | .waiting, some (.whole n) =>
      if -limit.largest - 1 ≤ n ∧ n ≤ limit.largest then .ok (some n.natAbs, Option.none)
      else .error (.sizeBeyond limit.word)
  | .waiting, some _ => .error .sizeNotWhole
  | .waiting, Option.none => .error .noField

/-- A place: the name of its field, if it has one, and how the field is written there. -/
structure Directive where
  name : Option String
  flags : Flags
  width : Size
  precision : Size
  /-- The letter of the form and its index in the template, unless the template ends before. -/
  ending : Except Flaw (Char × Nat)

namespace Directive

/-- A name up to the parenthesis that closes `depth` open ones, and what is behind it. -/
def closeName? : Nat → List Char → Option (List Char × List Char)
  | _, [] => Option.none
  | depth, c :: rest =>
      if c = ')' ∧ depth ≤ 1 then some ([], rest)
      else
        let inner := if c = ')' then depth - 1 else if c = '(' then depth + 1 else depth
        (closeName? inner rest).map fun (name, after) => (c :: name, after)

/-- The letter of a form in a template of `length` characters, and what is behind it. -/
def readEnding (length : Nat) : List Char → Except Flaw (Char × Nat) × List Char
  | [] => (.error .unfinished, [])
  | c :: rest =>
      if c = 'h' ∨ c = 'l' ∨ c = 'L' then
        match rest with
        | [] => (.error .unfinished, [])
        | letter :: after => (.ok (letter, length - after.length - 1), after)
      else (.ok (c, length - rest.length - 1), rest)

def readForm (length : Nat) (name : Option String) (text : List Char) : Directive × List Char :=
  let (flags, afterFlags) := Flags.none.read text
  let (width, afterWidth) := Size.read afterFlags
  let (precision, afterPrecision) := Size.readPrecision afterWidth
  let (ending, after) := readEnding length afterPrecision
  (⟨name, flags, width, precision, ending⟩, after)

/-- A place behind its percent sign in a template of `length` characters, and what is behind it. -/
def read (length : Nat) : List Char → Directive × List Char
  | '(' :: rest =>
      match closeName? 1 rest with
      | some (name, after) => readForm length (some (String.ofList name)) after
      | Option.none => (⟨Option.none, .none, .unset, .unset, .error .unclosedName⟩, [])
  | text => readForm length Option.none text

end Directive

end Chip8.Journal
