import Chip8.Journal.Form
import Chip8.Text.Characters
import Chip8.Text.Word

/-! An entry of the journal file is made of a record by a template: fixed text and places for fields
of the record. A template without any place is refused at once; other flaws of a template show when an
entry is made, the first one in the order of its pieces. -/

namespace Chip8.Journal

inductive Piece where
  | plain (c : Char)
  | place (directive : Directive)

abbrev Template := List Piece

namespace Template

/-- At most `limit` pieces of a template of `length` characters. A double percent sign stands for a
single one. -/
def piecesOf (length : Nat) : Nat → List Char → Template
  | 0, _ | _, [] => []
  | limit + 1, '%' :: '%' :: rest => .plain '%' :: piecesOf length limit rest
  | limit + 1, '%' :: rest =>
      let (directive, after) := Directive.read length rest
      .place directive :: piecesOf length limit after
  | limit + 1, c :: rest => .plain c :: piecesOf length limit rest

/-- The template that a text describes, whether it has a place or not. -/
def ofText (text : String) : Template := piecesOf text.length text.length text.toList

/-- What is behind a size, which may be written in the digits of any script. -/
def passSize : List Char → List Char
  | '*' :: rest => rest
  | text => text.dropWhile fun c => (Text.digitValue? c).isSome

def passPrecision : List Char → List Char
  | '.' :: text => if (passSize text).length < text.length then passSize text else '.' :: text
  | text => text

/-- The letters with which a place may end for a template to be accepted, in both cases; three of
them have further variants. -/
def letters : List Char := "diouxefgcrsaDIOUXEFGCRSA%İıſ".toList

def opensPlace : List Char → Bool
  | '%' :: '(' :: text =>
      match text.takeWhile Text.isWord, text.dropWhile Text.isWord with
      | _ :: _, ')' :: rest =>
          match passPrecision (passSize (rest.dropWhile fun c => "#0+ -".toList.contains c)) with
          | letter :: _ => letters.contains letter
          | [] => false
      | _, _ => false
  | _ => false

def hasPlace : List Char → Bool
  | [] => false
  | c :: rest => opensPlace (c :: rest) || hasPlace rest

/-- The template that a text describes; the empty text asks for the message alone. -/
def ofText? (text : String) : Except Flaw Template :=
  if text = "" then .ok (ofText "%(message)s")
  else if hasPlace text.toList then .ok (ofText text)
  else .error (.noPlace text)

def standard : Template := ofText "%(asctime)s [%(levelname)s] %(name)s: %(message)s"

def entryFrom (origin : Origin) (record : Record) : Option Field → Template → Except Flaw Entry
  | _, [] => .ok []
  | waiting, .plain c :: rest => (entryFrom origin record waiting rest).map (.character c :: ·)
  | waiting, .place directive :: rest => do
      let (text, next) ← directive.fill origin record waiting
      return text ++ (← entryFrom origin record next rest)

/-- The entry of a record. At first all its fields together are waiting. -/
def entry (template : Template) (origin : Origin) (record : Record) : Except Flaw Entry :=
  entryFrom origin record (some (record.everything origin)) template

def standardEntry (time : String) (record : Record) : String :=
  time ++ " [" ++ record.level.name ++ "] " ++ journalName ++ ": " ++ record.message

/-- The place of a field whose letter stands at an index and asks for plain text. -/
def textPlace (name : String) (index : Nat) : Piece :=
  .place ⟨some name, .none, .unset, .unset, .ok ('s', index)⟩

theorem standard_eq : standard =
    textPlace "asctime" 10 :: .plain ' ' :: .plain '[' :: textPlace "levelname" 25 :: .plain ']' ::
      .plain ' ' :: textPlace "name" 35 :: .plain ':' :: .plain ' ' :: [textPlace "message" 48] := by
  rfl

theorem fill_text {origin : Origin} {name text : String} {record : Record} {waiting : Option Field}
    {index : Nat} (found : (record.fields origin).lookup name = some (.text text)) :
    Directive.fill origin record waiting ⟨some name, .none, .unset, .unset, .ok ('s', index)⟩ =
      .ok (Text.points text, none) := by
  have room : 0 < Directive.noRoom := Nat.two_pow_pos 36
  simp [Directive.fill, found, Size.take, Form.ofLetter?, bind, Except.bind, room, Form.write_plain,
    Flags.none, Flags.placeText, cut, Field.plain]

theorem entry_standard (origin : Origin) (record : Record) :
    standard.entry origin record = .ok (Text.points (standardEntry origin.time record)) := by
  rw [standard_eq]
  simp [Template.entry, entryFrom, textPlace, fill_text, Record.fields, bind, Except.bind,
    pure, Except.pure, Except.map, standardEntry, List.lookup_cons, journalName, Text.points]

end Template

end Chip8.Journal
