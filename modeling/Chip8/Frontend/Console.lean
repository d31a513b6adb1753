import Chip8.Frontend.Output

namespace Chip8.Frontend.Console

def opensMark (c : Char) : Bool := c.isLower || c == '/' || c == '#' || c == '@'

/-- The number of characters of the mark with which a text begins, or none at all. -/
def markLength : List Char → Nat
  | '[' :: c :: rest =>
      let inner := rest.takeWhile fun d => d != '[' && d != ']'
      match rest.drop inner.length with
      | ']' :: _ => if opensMark c then inner.length + 3 else 0
      | _ => 0
  | _ => 0

/-- The text without its marks of style, after `skipped` more characters of a mark. -/
def withoutMarks (skipped : Nat) : List Char → List Char
  | [] => []
  | c :: rest =>
      match skipped with
      | more + 1 => withoutMarks more rest
      | 0 =>
          match markLength (c :: rest) with
          | 0 => c :: withoutMarks 0 rest
          | more + 1 => withoutMarks more rest

def plain (markup : String) : String := String.ofList (withoutMarks 0 markup.toList)

def filled (width : Nat) (text : String) : String :=
  text ++ String.ofList (List.replicate (width - text.length) ' ')

def columnWidths : List (List String) → List Nat
  | [] => []
  | row :: rest =>
      let others := columnWidths rest
      row.zipIdx.map fun (cell, k) => max cell.length (others.getD k 0)

def rowLine (widths : List Nat) (row : List String) : String :=
  "  ".intercalate ((row.zip widths).map fun (cell, width) => filled width cell)

def tableLines (table : Table) : List String :=
  let rows := table.headers :: table.rows
  let widths := columnWidths rows
  table.title :: rows.map (rowLine widths) ++ table.caption.toList

def printedLines : Printed → List String
  | .line markup => (plain markup).splitOn "\n"
  | .panel markup => ["== " ++ plain markup ++ " =="]
  | .table table => tableLines table

def pictureLines (screen : Screen) : List String :=
  screen.rows.map fun row => String.ofList (row.map fun lit => if lit then '█' else ' ')

def recordLine (record : Journal.Record) : String :=
  "[" ++ record.level.name ++ "] " ++ record.message

end Chip8.Frontend.Console
