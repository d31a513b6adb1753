import Chip8.Proofs.Settings.Brackets
import Chip8.Proofs.Settings.Reading
import Chip8.Proofs.Settings.Room
import Chip8.Proofs.Settings.Validity
import Chip8.Settings.Load
import Mathlib

namespace Chip8.Settings

open Named

variable {fields overrides : Fields}

theorem table_of_merged (distinct : Distinct overrides) {name : String} {standard inner : Fields}
    (before : find? fields name = some (.table standard))
    (after : find? (mergeFields fields overrides) name = some (.table inner)) :
    ∃ changes, inner = mergeFields standard changes := by
  rw [find?_mergeFields distinct, before] at after
  cases override : find? overrides name with
  | none =>
      rw [override] at after
      cases after
      exact ⟨[], by rw [mergeFields]⟩
  | some value =>
      rw [override] at after
      cases value with
      | table changes =>
          dsimp only at after
          rw [Value.override] at after
          cases after
          exact ⟨changes, rfl⟩
      | _ =>
          dsimp only at after
          rw [Value.override] at after
          · cases after
          · rintro _ ⟨⟩

theorem equipped_of_merged (distinct : Distinct overrides) {name : String} {standard : Fields}
    (before : find? fields name = some (.table standard)) :
    Equipped (mergeFields fields overrides) name (names standard) := by
  intro inner after key there
  obtain ⟨changes, rfl⟩ := table_of_merged distinct before after
  exact (names_mergeFields standard changes).subset there

theorem furnished_of_merged (distinct : Distinct overrides) :
    Furnished (mergeFields Preferences.standard.fields overrides) := by
  have general : find? Preferences.standard.fields "general" = some (.table _) := rfl
  have quirks : find? Preferences.standard.fields "quirks" = some (.table _) := rfl
  have sound : find? Preferences.standard.fields "sound" = some (.table _) := rfl
  exact ⟨equipped_of_merged distinct general, equipped_of_merged distinct quirks,
    equipped_of_merged distinct sound⟩

/-- Settings that a program can be started with. -/
structure Loaded.Usable (loaded : Loaded) : Prop where
  keyboard : ∃ keyboard, find? loaded.fields "keyboard" = some (.table keyboard) ∧
    UsableKeyboard keyboard
  quirks : ∃ quirks inclusive checked, find? loaded.fields "quirks" = some (.table quirks) ∧
    find? quirks "load_store_inclusive" = some (.truth inclusive) ∧
    find? quirks "jump_v0_checked" = some (.truth checked) ∧
    loaded.preferences.dialect = ⟨inclusive, checked⟩

/-- Settings that pass the check have their switches and their keyboard from the tables. -/
theorem ofFields_cases {preferences : Preferences}
    (valid : Preferences.ofFields fields = .ok preferences) :
    ∃ quirks keyboard inclusive checked,
      find? fields "quirks" = some (.table quirks) ∧
      find? fields "keyboard" = some (.table keyboard) ∧
      find? quirks "load_store_inclusive" = some (.truth inclusive) ∧
      find? quirks "jump_v0_checked" = some (.truth checked) ∧
      preferences.dialect = ⟨inclusive, checked⟩ ∧
      bindingsOf [] keyboard = .ok preferences.keyboard := by
  obtain ⟨general, _, valid⟩ := bind_eq_ok.mp valid
  obtain ⟨quirks, quirksTable, valid⟩ := bind_eq_ok.mp valid
  obtain ⟨sound, _, valid⟩ := bind_eq_ok.mp valid
  obtain ⟨keyboard, keyboardTable, valid⟩ := bind_eq_ok.mp valid
  obtain ⟨cycles, _, valid⟩ := bind_eq_ok.mp valid
  obtain ⟨rate, _, valid⟩ := bind_eq_ok.mp valid
  obtain ⟨scale, _, valid⟩ := bind_eq_ok.mp valid
  obtain ⟨inclusive, inclusiveFound, valid⟩ := bind_eq_ok.mp valid
  obtain ⟨checked, checkedFound, valid⟩ := bind_eq_ok.mp valid
  obtain ⟨sounding, _, valid⟩ := bind_eq_ok.mp valid
  obtain ⟨frequency, _, valid⟩ := bind_eq_ok.mp valid
  obtain ⟨volume, _, valid⟩ := bind_eq_ok.mp valid
  obtain ⟨bindings, bound, valid⟩ := bind_eq_ok.mp valid
  cases valid
  exact ⟨quirks, keyboard, inclusive, checked, tableOf_eq_ok.mp quirksTable,
    tableOf_eq_ok.mp keyboardTable, truthOf_eq_ok.mp inclusiveFound, truthOf_eq_ok.mp checkedFound,
    rfl, bound⟩

theorem usable_of_merged (distinct : Distinct overrides) {preferences : Preferences}
    (valid : Preferences.ofFields (mergeFields Preferences.standard.fields overrides) =
      .ok preferences) (records : List Journal.Record) :
    Loaded.Usable ⟨mergeFields Preferences.standard.fields overrides, preferences, records⟩ := by
  obtain ⟨quirks, keyboard, inclusive, checked, quirksTable, keyboardTable, inclusiveFound,
    checkedFound, dialect, bound⟩ := ofFields_cases valid
  obtain ⟨accepted, same⟩ := bindingsOf_eq_ok.mp bound
  have standardTable : find? Preferences.standard.fields "keyboard" =
      some (.table (entries Preferences.standardKeyboard)) := rfl
  obtain ⟨changes, merged⟩ := table_of_merged distinct standardTable keyboardTable
  have keys : keypadKeys <+: names (entries preferences.keyboard) := by
    rw [same, merged]
    exact names_mergeFields (entries Preferences.standardKeyboard) changes
  have usable := usable_of_keyed accepted.toKeyed keys
  rw [same] at usable
  exact ⟨⟨keyboard, keyboardTable, usable⟩,
    ⟨quirks, inclusive, checked, quirksTable, inclusiveFound, checkedFound, dialect⟩⟩

theorem usable_standard (records : List Journal.Record) :
    Loaded.Usable ⟨Preferences.standard.fields, Preferences.standard, records⟩ where
  keyboard := ⟨_, rfl, usable_of_keyed keyed_standardKeyboard List.prefix_rfl⟩
  quirks := ⟨_, _, _, rfl, rfl, rfl, rfl⟩

/-- A table into which overrides were merged. Its names keep their places, and new ones come last.
Under a name for a table in both there is the one with the other merged into it; under a name for
anything else there is the override, if there is one, and otherwise what was there. -/
inductive Merges : Fields → Fields → Fields → Prop where
  | intro {fields overrides merged : Fields}
      (names : merged.names =
        fields.names ++ overrides.names.filter fun name => name ∉ fields.names)
      (kept : ∀ name, find? overrides name = none → find? merged name = find? fields name)
      (replaced : ∀ name value, find? overrides name = some value →
        (∀ inner changes, find? fields name = some (.table inner) → value ≠ .table changes) →
          find? merged name = some value)
      (joined : ∀ name inner changes, find? fields name = some (.table inner) →
        find? overrides name = some (.table changes) →
          ∃ both, find? merged name = some (.table both))
      (within : ∀ name inner changes both, find? fields name = some (.table inner) →
        find? overrides name = some (.table changes) → find? merged name = some (.table both) →
          Merges inner changes both) : Merges fields overrides merged

theorem merges_mergeFields (unambiguous : Unambiguous overrides) (fields : Fields) :
    Merges fields overrides (mergeFields fields overrides) := by
  induction unambiguous generalizing fields with
  | @intro overrides distinct _ ih =>
      have joined {name : String} {inner changes : Fields}
          (before : find? fields name = some (.table inner))
          (override : find? overrides name = some (.table changes)) :
          find? (mergeFields fields overrides) name = some (.table (mergeFields inner changes)) := by
        rw [find?_merged distinct, before, override, Value.merged]
      refine .intro (names_merged distinct fields) ?kept ?replaced ?joined ?within
      case kept =>
        intro name absent
        rw [find?_merged distinct, absent, merged_none]
      case replaced =>
        intro name value override apart
        rw [find?_merged distinct, override]
        unfold Value.merged
        split
        · rename_i inner changes before same
          cases same
          exact absurd rfl (apart inner changes before)
        · rename_i same _
          exact same.symm
        · rename_i none
          cases none
      case joined =>
        intro name inner changes before override
        exact ⟨_, joined before override⟩
      case within =>
        intro name inner changes both before override found
        rw [joined before override] at found
        cases found
        exact ih name changes (mem_of_find? override) inner

/-- What comes of overrides: the settings into which they were merged, if these pass the check.
Otherwise the standard settings hold, and one error is on record. That a name is missing is never what
is wrong. -/
structure Settles (overrides : Fields) (loaded : Loaded) : Prop where
  outcome : ∃ merged, Merges Preferences.standard.fields overrides merged ∧
    ((∃ preferences, Preferences.ofFields merged = .ok preferences ∧
      loaded = ⟨merged, preferences, []⟩) ∨
    ∃ problem, Preferences.ofFields merged = .error problem ∧ (∀ name, problem ≠ .missing name) ∧
      loaded = ⟨Preferences.standard.fields, Preferences.standard,
        [⟨.error, "Failed to load config: " ++ problem.message, some .invalid⟩]⟩)
  usable : loaded.Usable

theorem ofOverrides_settles (unambiguous : Unambiguous overrides) :
    Settles overrides (ofOverrides overrides) := by
  have merges := merges_mergeFields unambiguous Preferences.standard.fields
  have complete := ofFields_complete (furnished_of_merged unambiguous.distinct)
  unfold ofOverrides
  dsimp only
  cases checked : Preferences.ofFields (mergeFields Preferences.standard.fields overrides) with
  | ok preferences =>
      exact ⟨⟨_, merges, .inl ⟨preferences, checked, rfl⟩⟩,
        usable_of_merged unambiguous.distinct checked []⟩
  | error problem =>
      refine ⟨⟨_, merges, .inr ⟨problem, checked, ?_, rfl⟩⟩, usable_standard _⟩
      rintro name rfl
      exact complete name checked

/-- Settings that are loaded are the standard ones, or come from the table of a file. -/
theorem load_cases {source : Source} {loaded : Loaded} (loads : load source = .ok loaded) :
    (∃ records, loaded = ⟨Preferences.standard.fields, Preferences.standard, records⟩) ∨
      ∃ text overrides, Toml.read text = .ok overrides ∧ loaded = ofOverrides overrides := by
  unfold load at loads
  split at loads
  · cases loads
    exact .inl ⟨_, rfl⟩
  · cases loads
    exact .inl ⟨_, rfl⟩
  · split at loads
    · cases loads
      exact .inl ⟨_, rfl⟩
    · split at loads <;> cases loads
      · exact .inl ⟨_, rfl⟩
      · exact .inl ⟨_, rfl⟩
      · rename_i found
        exact .inr ⟨_, _, found, rfl⟩

theorem load_usable {source : Source} {loaded : Loaded} (loads : load source = .ok loaded) :
    loaded.Usable := by
  obtain ⟨records, rfl⟩ | ⟨text, overrides, found, rfl⟩ := load_cases loads
  · exact usable_standard records
  · exact (ofOverrides_settles (Toml.unambiguous_of_readWithin found)).usable

theorem load_keyed {source : Source} {loaded : Loaded} (loads : load source = .ok loaded) :
    Keyed loaded.preferences.keyboard := by
  obtain ⟨records, rfl⟩ | ⟨text, overrides, found, rfl⟩ := load_cases loads
  · exact keyed_standardKeyboard
  · unfold ofOverrides
    dsimp only
    split
    · rename_i preferences valid
      obtain ⟨_, _, _, _, _, _, _, _, _, bound⟩ := ofFields_cases valid
      exact (bindingsOf_eq_ok.mp bound).1.toKeyed
    · exact keyed_standardKeyboard

end Chip8.Settings
