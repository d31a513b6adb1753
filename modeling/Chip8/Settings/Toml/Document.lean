import Chip8.Settings.Toml.Number
import Chip8.Settings.Toml.Tree

namespace Chip8.Settings.Toml

def namePart? : List Char → Option (String × List Char)
  | '\x22' :: rest => basicString? rest
  | '\x27' :: rest => literalString? rest
  | text =>
      let bare := text.takeWhile isBare
      if bare = [] then none else some (String.ofList bare, text.dropWhile isBare)

/-- A dotted name of at most `limit` parts, and what is behind the blanks after it. -/
def name? : Nat → List Char → Option (List String × List Char)
  | 0, _ => none
  | limit + 1, text => do
      let (part, after) ← namePart? text
      match skipSpacing after with
      | '.' :: rest =>
          let (parts, afterParts) ← name? limit (skipSpacing rest)
          return (part :: parts, afterParts)
      | rest => return ([part], rest)

/-- The levels on which values can stand in each other. A thousand calls may be under way at once: seven
lead to a value of the settings, and two more read the blanks of the innermost list. -/
def valueLevels : Nat := 991

/-- What is left of the room on so many levels further down. -/
def descend (levels room : Nat) : Except Malformed Nat :=
  if levels ≤ room then .ok (room - levels) else .error .tooDeep

mutual

/-- A value. The limit bounds the length of what is read, and the room bounds its depth: an item of a
list stands two levels below it, and a value of a table in braces three. -/
def value : Nat → Nat → List Char → Except Malformed (Value × List Char)
  | 0, _, _ => .error .grammar
  | limit + 1, room, text =>
      match text with
      | '\x22' :: '\x22' :: '\x22' :: rest => do
          let (body, after) ← inGrammar (longBasicString? rest)
          return (.text body, after)
      | '\x22' :: rest => do
          let (body, after) ← inGrammar (basicString? rest)
          return (.text body, after)
      | '\x27' :: '\x27' :: '\x27' :: rest => do
          let (body, after) ← inGrammar (longLiteralString? rest)
          return (.text body, after)
      | '\x27' :: rest => do
          let (body, after) ← inGrammar (literalString? rest)
          return (.text body, after)
      | 't' :: 'r' :: 'u' :: 'e' :: after => .ok (.truth true, after)
      | 'f' :: 'a' :: 'l' :: 's' :: 'e' :: after => .ok (.truth false, after)
      | '[' :: rest => do
          let within ← descend 2 room
          let (items, after) ← items limit within (← inGrammar (skipFiller? rest))
          return (.list items, after)
      | '\x7b' :: rest =>
          match skipSpacing rest with
          | '\x7d' :: after => .ok (.table [], after)
          | first => do
              let within ← descend 3 room
              let (entries, after) ← pairs limit within [] first
              return (.table (finishEntries entries), after)
      | other => number other

/-- The items of a list up to its closing bracket. A comma may stand behind the last one. -/
def items : Nat → Nat → List Char → Except Malformed (List Value × List Char)
  | 0, _, _ => .error .grammar
  | limit + 1, room, text =>
      match text with
      | ']' :: after => .ok ([], after)
      | _ => do
          let (item, afterItem) ← value limit room text
          match ← inGrammar (skipFiller? afterItem) with
          | ']' :: after => return ([item], after)
          | ',' :: rest =>
              let (more, after) ← items limit room (← inGrammar (skipFiller? rest))
              return (item :: more, after)
          | _ => .error .grammar

/-- The pairs of a table in braces up to its closing brace. No comma stands behind the last one. -/
def pairs : Nat → Nat → Named Node → List Char → Except Malformed (Named Node × List Char)
  | 0, _, _, _ => .error .grammar
  | limit + 1, room, entries, text => do
      let (name, afterName) ← inGrammar (name? (text.length + 1) text)
      let (value, afterValue) ← value limit room (skipSpacing (← inGrammar (expect? '=' afterName)))
      let next ← inGrammar (assign 0 value name entries)
      match skipSpacing afterValue with
      | '\x7d' :: after => return (next, after)
      | ',' :: rest => pairs limit room next (skipSpacing rest)
      | _ => .error .grammar

end

/-- A document under construction: the number of its current section, the path of that section's
table, and the tables so far. -/
structure Draft where
  current : Nat
  header : List String
  root : Named Node

namespace Draft

def empty : Draft := ⟨0, [], []⟩

/-- Opens a section by a change of the table that the last part of its path names. -/
def openSection? (draft : Draft) (path : List String)
    (change : Nat → String → Named Node → Option (Named Node)) : Option Draft := do
  let last ← path.getLast?
  let root ← onTable (change (draft.current + 1) last) path.dropLast draft.root
  return ⟨draft.current + 1, path, root⟩

def statement (room : Nat) (draft : Draft) (text : List Char) :
    Except Malformed (Draft × List Char) :=
  match text with
  | '[' :: '[' :: rest => inGrammar do
      let (path, after) ← name? (rest.length + 1) (skipSpacing rest)
      let next ← draft.openSection? path fun _ name => append name
      return (next, ← expect? ']' (← expect? ']' after))
  | '[' :: rest => inGrammar do
      let (path, after) ← name? (rest.length + 1) (skipSpacing rest)
      let next ← draft.openSection? path declare
      return (next, ← expect? ']' after)
  | _ => do
      let (name, afterName) ← inGrammar (name? (text.length + 1) text)
      let start := skipSpacing (← inGrammar (expect? '=' afterName))
      let (value, after) ← value (text.length + 1) room start
      let root ← inGrammar (onTable (assign draft.current value name) draft.header draft.root)
      return ({ draft with root := root }, after)

def statements (room : Nat) : Nat → Draft → List Char → Except Malformed Draft
  | 0, _, _ => .error .grammar
  | limit + 1, draft, text => do
      let start := skipSpacing text
      let (next, after) ←
        match start with
        | [] => .ok (draft, [])
        | '\n' :: _ | '#' :: _ => .ok (draft, start)
        | _ => draft.statement room start
      match ← inGrammar (skipComment? (skipSpacing after)) with
      | [] => return next
      | '\n' :: rest => statements room limit next rest
      | _ => .error .grammar

end Draft

/-- A line may end in a carriage return and a line feed; the former is left out. -/
def unifyLineEnds : List Char → List Char
  | '\r' :: '\n' :: rest => '\n' :: unifyLineEnds rest
  | c :: rest => c :: unifyLineEnds rest
  | [] => []

/-- The tables of a document whose values stand in each other on no more levels than there is room. -/
def readWithin (room : Nat) (document : String) : Except Malformed Fields := do
  let text := unifyLineEnds document.toList
  let draft ← Draft.statements room (text.length + 1) .empty text
  return finishEntries draft.root

def read (document : String) : Except Malformed Fields := readWithin valueLevels document

end Chip8.Settings.Toml
