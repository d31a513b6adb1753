import Chip8.Proofs.Settings.Overrides
import Chip8.Settings.Toml.Tree

namespace Chip8.Settings

open Named

/-- No name comes twice in a value, if it is a table. -/
def Value.Clear (value : Value) : Prop := ∀ fields, value = .table fields → Unambiguous fields

namespace Unambiguous

variable {fields : Fields}

theorem nil : Unambiguous [] := .intro List.nodup_nil fun _ _ member => nomatch member

theorem clear (unambiguous : Unambiguous fields) : (Value.table fields).Clear := by
  rintro _ ⟨⟩
  exact unambiguous

theorem put (unambiguous : Unambiguous fields) {value : Value} (clear : value.Clear)
    (name : String) : Unambiguous (Named.put name value fields) := by
  obtain ⟨distinct, within⟩ := unambiguous
  refine .intro (distinct.put value) fun other inner member => ?_
  rcases mem_put member with same | old
  · cases same
    exact clear inner rfl
  · exact within other inner old

end Unambiguous

namespace Toml

theorem finishEntries_eq_map (entries : Named Node) :
    finishEntries entries = entries.map fun (name, node) => (name, node.finish) := by
  induction entries with
  | nil => rw [finishEntries, List.map_nil]
  | cons pair rest ih => rw [finishEntries, ih, List.map_cons]

theorem finishEntries_put (name : String) (node : Node) (entries : Named Node) :
    finishEntries (put name node entries) = put name node.finish (finishEntries entries) := by
  induction entries with
  | nil => simp only [put, finishEntries]
  | cons pair rest ih =>
      obtain ⟨first, old⟩ := pair
      rw [finishEntries, put, put]
      split
      · rw [finishEntries]
      · rw [finishEntries, ih]

/-- The table that is made of the entries is unambiguous. -/
def Orderly (entries : Named Node) : Prop := Unambiguous (finishEntries entries)

theorem orderly_nil : Orderly [] := by
  rw [Orderly, finishEntries]
  exact .nil

namespace Orderly

variable {entries : Named Node} {name : String}

theorem put (orderly : Orderly entries) {node : Node} (clear : node.finish.Clear) :
    Orderly (Named.put name node entries) := by
  rw [Orderly, finishEntries_put]
  exact Unambiguous.put orderly clear name

theorem putTable (orderly : Orderly entries) {inner : Named Node} (within : Orderly inner)
    (closedFrom : Option Nat) : Orderly (Named.put name (.table closedFrom inner) entries) := by
  refine orderly.put ?_
  rw [Node.finish]
  exact within.clear

/-- Nothing is asked of the tables of a list, since those are never merged. -/
theorem putTables (orderly : Orderly entries) (last : Named Node) (earlier : List (Named Node)) :
    Orderly (Named.put name (.tables last earlier) entries) := by
  refine orderly.put ?_
  rw [Node.finish]
  rintro _ ⟨⟩

theorem inner (orderly : Orderly entries) {closedFrom : Option Nat} {inner : Named Node}
    (found : find? entries name = some (.table closedFrom inner)) : Orderly inner := by
  obtain ⟨_, within⟩ := orderly
  have finished : (Node.table closedFrom inner).finish = .table (finishEntries inner) := by
    rw [Node.finish]
  refine within name _ ?_
  rw [finishEntries_eq_map, ← finished]
  exact List.mem_map_of_mem (mem_of_find? found)

end Orderly

/-- A change of a table that keeps it orderly. -/
def KeepsOrder (change : Named Node → Option (Named Node)) : Prop :=
  ∀ ⦃entries next : Named Node⦄, Orderly entries → change entries = some next → Orderly next

theorem assign_keepsOrder {value : Value} (clear : value.Clear) (current : Nat) (path : List String) :
    KeepsOrder (assign current value path) := by
  induction path with
  | nil =>
      rintro entries next _ ⟨⟩
  | cons name rest ih =>
      intro entries next orderly assigned
      cases rest with
      | nil =>
          unfold assign at assigned
          split at assigned <;> cases assigned
          exact orderly.put (by rwa [Node.finish])
      | cons second rest =>
          unfold assign at assigned
          split at assigned
          · obtain ⟨inner, changed, rfl⟩ := Option.map_eq_some_iff.mp assigned
            exact orderly.putTable (ih orderly_nil changed) _
          · rename_i found
            split at assigned
            · cases assigned
            · obtain ⟨inner, changed, rfl⟩ := Option.map_eq_some_iff.mp assigned
              exact orderly.putTable (ih (orderly.inner found) changed) _
          · cases assigned

theorem declare_keepsOrder (current : Nat) (name : String) : KeepsOrder (declare current name) := by
  intro entries next orderly declared
  unfold declare at declared
  split at declared
  · cases declared
    exact orderly.putTable orderly_nil _
  · rename_i found
    split at declared <;> cases declared
    exact orderly.putTable (orderly.inner found) _
  · cases declared

theorem append_keepsOrder (name : String) : KeepsOrder (append name) := by
  intro entries next orderly appended
  unfold append at appended
  split at appended <;> cases appended <;> exact orderly.putTables _ _

theorem onTable_keepsOrder {change : Named Node → Option (Named Node)} (keeps : KeepsOrder change)
    (path : List String) : KeepsOrder (onTable change path) := by
  induction path with
  | nil => exact keeps
  | cons name rest ih =>
      intro entries next orderly changed
      unfold onTable at changed
      split at changed
      · obtain ⟨inner, within, rfl⟩ := Option.map_eq_some_iff.mp changed
        exact orderly.putTable (ih orderly_nil within) _
      · rename_i found
        obtain ⟨inner, within, rfl⟩ := Option.map_eq_some_iff.mp changed
        exact orderly.putTable (ih (orderly.inner found) within) _
      · obtain ⟨inner, _, rfl⟩ := Option.map_eq_some_iff.mp changed
        exact orderly.putTables _ _
      · cases changed

end Toml

end Chip8.Settings
