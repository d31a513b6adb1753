/-! A path is a row of names between slashes. Empty names and single dots say nothing and are left out
of the normal form; a path that begins with exactly two slashes keeps both, one that begins with one
or more than two keeps one. -/

namespace Chip8.Path

def segments : List Char → List (List Char)
  | [] => [[]]
  | '/' :: rest => [] :: segments rest
  | c :: rest =>
      match segments rest with
      | [] => [[c]]
      | first :: more => (c :: first) :: more

def names (path : List Char) : List (List Char) :=
  (segments path).filter fun name => name != [] && name != ['.']

def root (path : List Char) : List Char :=
  match (path.takeWhile (· == '/')).length with
  | 0 => []
  | 2 => ['/', '/']
  | _ => ['/']

/-- The normal form of a path. The empty path is the current directory, a dot. -/
def normal (path : String) : String :=
  let chars := path.toList
  match root chars, names chars with
  | [], [] => "."
  | slashes, parts => String.ofList (slashes ++ ['/'].intercalate parts)

/-- The place to which names lead from another one. A double dot leads one directory up; both places
are given from the innermost name on. -/
def follow (here : List (List Char)) : List (List Char) → List (List Char)
  | [] => here
  | name :: rest =>
      if name = ['.', '.'] then
        match here with
        | [] => follow [name] rest
        | last :: up => follow (if last = name then name :: here else up) rest
      else follow (name :: here) rest

def place (path : List Char) : List (List Char) := (follow [] (names path)).reverse

/-- The place of a path in normal form, if it is not outside of the current directory. -/
def inside? (path : String) : Option String :=
  let chars := path.toList
  match root chars, place chars with
  | [], [] => some "."
  | [], first :: rest =>
      if first = ['.', '.'] then none else some (String.ofList (['/'].intercalate (first :: rest)))
  | _, _ => none

/-- The part of a name before its last dot, if there is something on both sides of that dot. -/
def stemOf (name : List Char) : List Char :=
  let ending := name.reverse.takeWhile (· != '.')
  let before := (name.reverse.dropWhile (· != '.')).drop 1
  if ending = [] ∨ before = [] then name else before.reverse

def stem (path : String) : String :=
  match (names path.toList).getLast? with
  | some name => String.ofList (stemOf name)
  | none => ""

end Chip8.Path
