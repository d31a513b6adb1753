import Chip8.Settings.Fields

/-! The statements of a document open tables and put values into them. Some tables may be opened again
and others not: one that has been declared by a header may not be declared once more; one that was
made by a dotted name may be filled by dotted names in the same section only; one that merely lies on
the way to another may still be declared. A value, also a list or a table in brackets, is never
opened. -/

namespace Chip8.Settings.Toml

inductive Node where
  | value (value : Value)
  /-- A table, and the number of the first section for which it is closed, if there is one. -/
  | table (closedFrom : Option Nat) (entries : List (String × Node))
  /-- A list of tables: the last one, which is open, and those before it, latest first. -/
  | tables (last : List (String × Node)) (earlier : List (List (String × Node)))

def isClosed (closedFrom : Option Nat) (current : Nat) : Bool :=
  match closedFrom with
  | none => false
  | some first => first ≤ current

/-- Changes the table at the end of a path. Tables that are missing on the way are made. -/
def onTable (change : Named Node → Option (Named Node)) :
    List String → Named Node → Option (Named Node)
  | [], entries => change entries
  | name :: rest, entries =>
      match Named.find? entries name with
      | none => (onTable change rest []).map fun inner => Named.put name (.table none inner) entries
      | some (.table closedFrom inner) =>
          (onTable change rest inner).map fun inner =>
            Named.put name (.table closedFrom inner) entries
      | some (.tables last earlier) =>
          (onTable change rest last).map fun last => Named.put name (.tables last earlier) entries
      | some (.value _) => none

def declare (current : Nat) (name : String) (entries : Named Node) : Option (Named Node) :=
  match Named.find? entries name with
  | none => some (Named.put name (.table (some 0) []) entries)
  | some (.table closedFrom inner) =>
      if isClosed closedFrom current then none
      else some (Named.put name (.table (some 0) inner) entries)
  | some _ => none

def append (name : String) (entries : Named Node) : Option (Named Node) :=
  match Named.find? entries name with
  | none => some (Named.put name (.tables [] []) entries)
  | some (.tables last earlier) => some (Named.put name (.tables [] (last :: earlier)) entries)
  | some _ => none

def assign (current : Nat) (value : Value) : List String → Named Node → Option (Named Node)
  | [], _ => none
  | [name], entries =>
      match Named.find? entries name with
      | none => some (Named.put name (.value value) entries)
      | some _ => none
  | name :: rest, entries =>
      match Named.find? entries name with
      | none =>
          (assign current value rest []).map fun inner =>
            Named.put name (.table (some (current + 1)) inner) entries
      | some (.table closedFrom inner) =>
          if isClosed closedFrom current then none
          else
            (assign current value rest inner).map fun inner =>
              Named.put name (.table (some (current + 1)) inner) entries
      | some _ => none

mutual

def Node.finish : Node → Value
  | .value value => value
  | .table _ entries => .table (finishEntries entries)
  | .tables last earlier => .list (finishTables [.table (finishEntries last)] earlier)

def finishEntries : List (String × Node) → List (String × Value)
  | [] => []
  | (name, node) :: rest => (name, node.finish) :: finishEntries rest

/-- Finished tables, the latest first, in front of later ones. -/
def finishTables (later : List Value) : List (List (String × Node)) → List Value
  | [] => later
  | entries :: rest => finishTables (.table (finishEntries entries) :: later) rest

end

end Chip8.Settings.Toml
