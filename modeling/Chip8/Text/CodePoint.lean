/-! A code point is a character or a half of a surrogate pair. A half by itself stands for no
character: a row of code points with one in it can be handled like a text, but no file can store it.
-/

namespace Chip8.Text

inductive CodePoint where
  | character (c : Char)
  | surrogate (half : Fin 0x800)
  deriving DecidableEq, Repr

namespace CodePoint

def firstSurrogate : Nat := 0xD800

def ofCode? (code : Nat) : Option CodePoint :=
  if inside : firstSurrogate ≤ code ∧ code < firstSurrogate + 0x800 then
    some (.surrogate ⟨code - firstSurrogate, by omega⟩)
  else if code < 0x110000 then some (.character (Char.ofNat code))
  else none

def code : CodePoint → Nat
  | .character c => c.toNat
  | .surrogate half => firstSurrogate + half.val

theorem code_ofCode? {code : Nat} {point : CodePoint} (found : ofCode? code = some point) :
    point.code = code := by
  unfold ofCode? at found
  split at found
  next inside =>
    cases found
    show firstSurrogate + (code - firstSurrogate) = code
    omega
  next outside =>
    split at found
    next small =>
      cases found
      have valid : code.isValidChar := by
        simp only [firstSurrogate] at outside
        simp only [Nat.isValidChar]
        omega
      change (Char.ofNat code).toNat = code
      rw [Char.ofNat, dif_pos valid]
      rfl
    next => cases found

def character? : CodePoint → Option Char
  | .character c => some c
  | .surrogate _ => none

end CodePoint

def points (text : String) : List CodePoint := text.toList.map .character

def ofPoints (points : List CodePoint) : String :=
  String.ofList (points.filterMap CodePoint.character?)

theorem ofPoints_points (text : String) : ofPoints (points text) = text := by
  have each : CodePoint.character? ∘ CodePoint.character = some := rfl
  rw [ofPoints, points, List.filterMap_map, each, List.filterMap_some, String.ofList_toList]

/-- Why a row of code points cannot be stored: the first half of a pair in it, its place, and the place
of the last one of those that follow it without a break. -/
structure Unstorable where
  half : Fin 0x800
  first : Nat
  last : Nat
  deriving DecidableEq, Repr

def Unstorable.message (reason : Unstorable) : String :=
  let code := CodePoint.firstSurrogate + reason.half.val
  (if reason.first = reason.last then
    "\x27utf-8\x27 codec can\x27t encode character \x27\\u" ++ String.ofList (Nat.toDigits 16 code) ++
      "\x27 in position " ++ toString reason.first
  else
    "\x27utf-8\x27 codec can\x27t encode characters in position " ++ toString reason.first ++ "-" ++
      toString reason.last) ++ ": surrogates not allowed"

def unstorable? (points : List CodePoint) : Option Unstorable :=
  let stored := points.takeWhile fun point => point.character?.isSome
  match points.drop stored.length with
  | .surrogate half :: rest =>
      let more := rest.takeWhile fun point => point.character?.isNone
      some ⟨half, stored.length, stored.length + more.length⟩
  | _ => none

theorem unstorable?_points (text : String) : unstorable? (points text) = none := by
  have each : ∀ chars : List Char,
      ((chars.map CodePoint.character).takeWhile fun point => point.character?.isSome) =
        chars.map CodePoint.character := by
    intro chars
    induction chars with
    | nil => rfl
    | cons c rest ih => rw [List.map_cons, List.takeWhile_cons_of_pos rfl, ih]
  have behind : (text.toList.map CodePoint.character).drop text.toList.length = [] := by simp
  simp only [unstorable?, points, each, List.length_map, behind]

end Chip8.Text
