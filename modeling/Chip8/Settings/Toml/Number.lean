import Chip8.Numeral.Double
import Chip8.Settings.Fields
import Chip8.Settings.Toml.Lexeme

namespace Chip8.Settings.Toml

/-- Further digits of a class, single underscores between them left out. -/
def moreDigits (isDigit : Char → Bool) : List Char → List Char × List Char
  | '_' :: c :: rest =>
      if isDigit c then
        let (digits, after) := moreDigits isDigit rest
        (c :: digits, after)
      else ([], '_' :: c :: rest)
  | c :: rest =>
      if isDigit c then
        let (digits, after) := moreDigits isDigit rest
        (c :: digits, after)
      else ([], c :: rest)
  | [] => ([], [])

def digits? (isDigit : Char → Bool) : List Char → Option (List Char × List Char)
  | c :: rest =>
      if isDigit c then
        let (digits, after) := moreDigits isDigit rest
        some (c :: digits, after)
      else none
  | [] => none

def digitsValue (base : Nat) (digits : List Char) : Nat :=
  digits.foldl (fun total c => base * total + (hexDigit? c).getD 0) 0

def markedNumber? : List Char → Option (Value × List Char)
  | '0' :: 'x' :: rest => (digits? (fun c => (hexDigit? c).isSome) rest).map (read 16)
  | '0' :: 'o' :: rest => (digits? (fun c => '0' ≤ c && c ≤ '7') rest).map (read 8)
  | '0' :: 'b' :: rest => (digits? (fun c => c == '0' || c == '1') rest).map (read 2)
  | _ => none
where
  read (base : Nat) : List Char × List Char → Value × List Char
    | (digits, after) => (.whole (digitsValue base digits), after)

def signOf : List Char → Bool × List Char
  | '-' :: rest => (true, rest)
  | '+' :: rest => (false, rest)
  | text => (false, text)

/-- The digits of a whole number: a single zero, or digits that begin with another one. -/
def wholeDigits? : List Char → Option (List Char × List Char)
  | '0' :: rest => some (['0'], rest)
  | text => digits? Char.isDigit text

def fractionOf : List Char → List Char × List Char
  | '.' :: rest => (digits? Char.isDigit rest).getD ([], '.' :: rest)
  | text => ([], text)

def exponentOf (text : List Char) : Option Int × List Char :=
  match text with
  | e :: rest =>
      if e = 'e' ∨ e = 'E' then
        let (negative, unsigned) := signOf rest
        match digits? Char.isDigit unsigned with
        | some (digits, after) =>
            let size : Int := digitsValue 10 digits
            (some (if negative then -size else size), after)
        | none => (none, text)
      else (none, text)
  | [] => (none, [])

def maxDigits : Nat := 4300

def decimalNumber (text : List Char) : Except Malformed (Value × List Char) := do
  let (negative, unsigned) := signOf text
  let (whole, afterWhole) ← inGrammar (wholeDigits? unsigned)
  let (fraction, afterFraction) := fractionOf afterWhole
  let (exponent, after) := exponentOf afterFraction
  if fraction = [] ∧ exponent = none then
    if maxDigits < whole.length then .error (.longNumber whole.length)
    else
      let size : Int := digitsValue 10 whole
      return (.whole (if negative then -size else size), after)
  else
    let size := Numeral.nearestDouble (digitsValue 10 (whole ++ fraction))
      (exponent.getD 0 - fraction.length)
    return (.real (if negative then -size else size), after)

def specialNumber? (text : List Char) : Option (Value × List Char) :=
  match signOf text with
  | (negative, 'i' :: 'n' :: 'f' :: after) =>
      some (.real (if negative then -Numeral.infinity else Numeral.infinity), after)
  | (_, 'n' :: 'a' :: 'n' :: after) => some (.real Numeral.notANumber, after)
  | _ => none

def twoDigits? (low high : Nat) : List Char → Option (Nat × List Char)
  | a :: b :: rest =>
      if a.isDigit && b.isDigit then
        let value := digitsValue 10 [a, b]
        if low ≤ value ∧ value ≤ high then some (value, rest) else none
      else none
  | _ => none

def expect? (c : Char) : List Char → Option (List Char)
  | d :: rest => if d = c then some rest else none
  | [] => none

def skipFraction : List Char → List Char
  | '.' :: d :: rest => if d.isDigit then rest.dropWhile Char.isDigit else '.' :: d :: rest
  | text => text

def skipTime? (text : List Char) : Option (List Char) := do
  let (_, afterHour) ← twoDigits? 0 23 text
  let (_, afterMinute) ← twoDigits? 0 59 (← expect? ':' afterHour)
  let (_, afterSecond) ← twoDigits? 0 59 (← expect? ':' afterMinute)
  return skipFraction afterSecond

def skipOffset (text : List Char) : List Char :=
  match text with
  | c :: rest =>
      if c = 'Z' ∨ c = 'z' then rest
      else if c = '+' ∨ c = '-' then
        match twoDigits? 0 23 rest with
        | some (_, ':' :: more) =>
            match twoDigits? 0 59 more with
            | some (_, after) => after
            | none => text
        | _ => text
      else text
  | [] => []

def daysOf (year month : Nat) : Nat :=
  if month = 2 then
    if year % 4 = 0 ∧ (year % 100 ≠ 0 ∨ year % 400 = 0) then 29 else 28
  else if month = 4 ∨ month = 6 ∨ month = 9 ∨ month = 11 then 30
  else 31

def date? (text : List Char) : Option (Nat × Nat × Nat × List Char) := do
  let (century, afterCentury) ← twoDigits? 0 99 text
  let (year, afterYear) ← twoDigits? 0 99 afterCentury
  let (month, afterMonth) ← twoDigits? 1 12 (← expect? '-' afterYear)
  let (day, after) ← twoDigits? 1 31 (← expect? '-' afterMonth)
  return (century * 100 + year, month, day, after)

def skipTimeOfDate : List Char → List Char
  | c :: rest =>
      if c = 'T' ∨ c = 't' ∨ c = ' ' then
        match skipTime? rest with
        | some after => skipOffset after
        | none => c :: rest
      else c :: rest
  | [] => []

/-- The characters of a text in front of its remainder `after`. -/
def consumed (text after : List Char) : String :=
  String.ofList (text.take (text.length - after.length))

/-- A date, a time of day or a number. A date that the calendar does not have is malformed. -/
def number (text : List Char) : Except Malformed (Value × List Char) :=
  match date? text with
  | some (year, month, day, afterDate) =>
      if 1 ≤ year ∧ day ≤ daysOf year month then
        let after := skipTimeOfDate afterDate
        .ok (.moment (consumed text after), after)
      else .error .grammar
  | none =>
      match skipTime? text with
      | some after => .ok (.moment (consumed text after), after)
      | none =>
          match markedNumber? text <|> specialNumber? text with
          | some read => .ok read
          | none => decimalNumber text

end Chip8.Settings.Toml
