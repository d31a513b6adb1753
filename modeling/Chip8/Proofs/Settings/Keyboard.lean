import Chip8.Proofs.Settings.Merge
import Chip8.Settings.Keymap
import Mathlib.Data.Fintype.Card
import Mathlib.Data.List.FinRange

namespace Chip8.Settings

/-- Different keys of the keypad for different keys of the host, none of them reserved. -/
structure Keyed (bindings : List Binding) : Prop where
  numbered : ∀ binding ∈ bindings, Text.hexNumber? binding.key = some (binding.index.val : Int)
  indices : (bindings.map Binding.index).Nodup
  free : ∀ binding ∈ bindings, binding.name ∉ reservedKeys
  names : (bindings.map Binding.name).Nodup

/-- The table that says the same as bindings. -/
def entries (bindings : List Binding) : Fields :=
  bindings.map fun binding => (binding.key, .text binding.host)

/-- The keymap that says the same as bindings of different keys of the host. -/
def hostKeys (bindings : List Binding) : Named Int :=
  bindings.map fun binding => (binding.name, binding.index.val)

theorem names_hostKeys (bindings : List Binding) :
    (hostKeys bindings).names = bindings.map Binding.name :=
  List.map_map ..

theorem numbers_hostKeys (bindings : List Binding) :
    (hostKeys bindings).map Prod.snd =
      (bindings.map Binding.index).map fun index => (index.val : Int) := by
  rw [hostKeys, List.map_map, List.map_map]
  rfl

theorem unused_append {α : Type} {row : Named α} {binding : Binding} {rest : List Binding} {thing : α}
    (other : binding.name ∉ rest.map Binding.name) (unused : ∀ later ∈ rest, later.name ∉ row.names) :
    ∀ later ∈ rest, later.name ∉ Named.names (row ++ [(binding.name, thing)]) := by
  intro later member
  rw [Named.names, List.map_append, List.mem_append, not_or]
  refine ⟨unused later member, fun single => ?_⟩
  exact other (List.mem_map.mpr ⟨later, member, List.mem_singleton.mp single⟩)

/-- Bindings that are accepted: what is bound are keys of the host with a name. -/
structure Accepted (bindings : List Binding) : Prop extends Keyed bindings where
  hosts : ∀ binding ∈ bindings, binding.host ≠ ""

/-- What a binding must be to be accepted behind earlier ones. -/
structure Joins (earlier : List Binding) (binding : Binding) : Prop where
  numbered : Text.hexNumber? binding.key = some (binding.index.val : Int)
  otherIndex : ∀ other ∈ earlier, other.index ≠ binding.index
  host : binding.host ≠ ""
  free : binding.name ∉ reservedKeys
  otherName : ∀ other ∈ earlier, other.name ≠ binding.name

theorem accepted_nil : Accepted [] where
  numbered := by rintro _ ⟨⟩
  indices := .nil
  free := by rintro _ ⟨⟩
  names := .nil
  hosts := by rintro _ ⟨⟩

theorem Accepted.of_append {first second : List Binding} (accepted : Accepted (first ++ second)) :
    Accepted first where
  numbered := (List.forall_mem_append.mp accepted.numbered).1
  indices := accepted.indices.sublist ((List.sublist_append_left _ _).map _)
  free := (List.forall_mem_append.mp accepted.free).1
  names := accepted.names.sublist ((List.sublist_append_left _ _).map _)
  hosts := (List.forall_mem_append.mp accepted.hosts).1

theorem nodup_map_concat {α : Type} (f : Binding → α) (earlier : List Binding) (binding : Binding) :
    ((earlier ++ [binding]).map f).Nodup ↔
      (earlier.map f).Nodup ∧ ∀ other ∈ earlier, f other ≠ f binding := by
  rw [List.map_append, List.map_singleton, List.nodup_append]
  simp

theorem accepted_concat {earlier : List Binding} {binding : Binding} :
    Accepted (earlier ++ [binding]) ↔ Accepted earlier ∧ Joins earlier binding := by
  constructor
  · rintro ⟨⟨numbered, indices, free, names⟩, hosts⟩
    obtain ⟨numbered, numberedLast⟩ := List.forall_mem_append.mp numbered
    obtain ⟨free, freeLast⟩ := List.forall_mem_append.mp free
    obtain ⟨hosts, hostLast⟩ := List.forall_mem_append.mp hosts
    obtain ⟨indices, otherIndex⟩ := (nodup_map_concat _ _ _).mp indices
    obtain ⟨names, otherName⟩ := (nodup_map_concat _ _ _).mp names
    have last := List.mem_singleton_self binding
    exact ⟨⟨⟨numbered, indices, free, names⟩, hosts⟩, numberedLast binding last, otherIndex,
      hostLast binding last, freeLast binding last, otherName⟩
  · rintro ⟨⟨⟨numbered, indices, free, names⟩, hosts⟩, joins⟩
    refine ⟨⟨?_, ?_, ?_, ?_⟩, ?_⟩
    · exact List.forall_mem_append.mpr ⟨numbered, by simpa using joins.numbered⟩
    · exact (nodup_map_concat _ _ _).mpr ⟨indices, joins.otherIndex⟩
    · exact List.forall_mem_append.mpr ⟨free, by simpa using joins.free⟩
    · exact (nodup_map_concat _ _ _).mpr ⟨names, joins.otherName⟩
    · exact List.forall_mem_append.mpr ⟨hosts, by simpa using joins.host⟩

theorem bindingOf_eq_ok {earlier : List Binding} {key : String} {value : Value} {binding : Binding} :
    bindingOf earlier key value = .ok binding ↔
      Joins earlier binding ∧ (key, value) = (binding.key, .text binding.host) := by
  constructor
  · intro bound
    unfold bindingOf at bound
    split at bound
    · cases bound
    · rename_i number known
      split at bound
      · rename_i inside
        dsimp only at bound
        split at bound
        · cases bound
        · rename_i otherIndex
          split at bound
          · split at bound
            · cases bound
            · rename_i named
              split at bound
              · cases bound
              · rename_i free
                split at bound
                · cases bound
                · rename_i otherName
                  cases bound
                  have index : ((Fin.ofNat 16 number.toNat).val : Int) = number := by
                    simp only [Fin.ofNat]
                    omega
                  refine ⟨⟨known.trans (congrArg some index.symm), ?_, named, free, ?_⟩, rfl⟩
                  · simpa using otherIndex
                  · simpa using otherName
          · cases bound
      · cases bound
  · rintro ⟨⟨numbered, otherIndex, host, free, otherName⟩, entry⟩
    cases entry
    have inside : 0 ≤ (binding.index.val : Int) ∧ (binding.index.val : Int) < 16 := by omega
    have index : Fin.ofNat 16 (binding.index.val : Int).toNat = binding.index :=
      Fin.ext (Nat.mod_eq_of_lt binding.index.isLt)
    have newIndex : (earlier.find? fun other => other.index == binding.index) = none := by
      simpa using otherIndex
    have newName : (earlier.find? fun other => other.name == binding.name) = none := by
      simpa using otherName
    unfold bindingOf
    simp only [numbered, if_pos inside, index, newIndex, if_neg host, if_neg free, newName]

/-- By induction on the entries, each of which is bound in turn behind those before it. -/
theorem bindingsOf_eq_ok_of_accepted {fields : Fields} {earlier bindings : List Binding}
    (accepted : Accepted earlier) :
    bindingsOf earlier fields = .ok bindings ↔
      ∃ added, entries added = fields ∧ Accepted (earlier ++ added) ∧ earlier ++ added = bindings := by
  induction fields generalizing earlier with
  | nil =>
      constructor
      · intro bound
        cases bound
        exact ⟨[], rfl, by rwa [List.append_nil], List.append_nil _⟩
      · rintro ⟨added, none, _, rfl⟩
        rw [List.map_eq_nil_iff.mp none, List.append_nil]
        rfl
  | cons field rest ih =>
      obtain ⟨key, value⟩ := field
      rw [bindingsOf, bind_eq_ok]
      constructor
      · rintro ⟨binding, one, others⟩
        obtain ⟨joins, entry⟩ := bindingOf_eq_ok.mp one
        have first := accepted_concat.mpr ⟨accepted, joins⟩
        obtain ⟨added, same, all, rfl⟩ := (ih first).mp others
        rw [List.append_assoc] at all ⊢
        exact ⟨binding :: added, by rw [entry, ← same]; rfl, all, rfl⟩
      · rintro ⟨added, same, all, made⟩
        cases added with
        | nil => cases same
        | cons binding more =>
            obtain ⟨entry, others⟩ := List.cons.inj same
            rw [List.append_cons] at all made
            have first : Accepted (earlier ++ [binding]) := all.of_append
            have joins := (accepted_concat.mp first).2
            exact ⟨binding, bindingOf_eq_ok.mpr ⟨joins, entry.symm⟩,
              (ih first).mpr ⟨more, others, all, made⟩⟩

theorem bindingsOf_eq_ok {fields : Fields} {bindings : List Binding} :
    bindingsOf [] fields = .ok bindings ↔ Accepted bindings ∧ entries bindings = fields := by
  rw [bindingsOf_eq_ok_of_accepted accepted_nil]
  constructor
  · rintro ⟨added, same, accepted, rfl⟩
    exact ⟨accepted, same⟩
  · rintro ⟨accepted, same⟩
    exact ⟨bindings, same, accepted, rfl⟩

namespace Keyed

variable {bindings : List Binding}

theorem length_le (keyed : Keyed bindings) : bindings.length ≤ 16 := by
  have bound := keyed.indices.length_le_card
  rwa [List.length_map, Fintype.card_fin] at bound

theorem indices_perm (keyed : Keyed bindings) (full : bindings.length = 16) :
    (bindings.map Binding.index).Perm (List.finRange 16) := by
  refine (keyed.indices.subperm fun index _ => List.mem_finRange index).perm_of_length_le ?_
  rw [List.length_map, full, List.length_finRange]

theorem extendKeymap_entries (keyed : Keyed bindings) {keymap : Named Int}
    (unused : ∀ binding ∈ bindings, binding.name ∉ keymap.names) :
    extendKeymap keymap (entries bindings) = .ok (keymap ++ hostKeys bindings) := by
  induction bindings generalizing keymap with
  | nil => exact congrArg Except.ok (List.append_nil keymap).symm
  | cons binding rest ih =>
      obtain ⟨numbered, numberedRest⟩ := List.forall_mem_cons.mp keyed.numbered
      obtain ⟨new, unusedRest⟩ := List.forall_mem_cons.mp unused
      obtain ⟨notAgain, distinct⟩ := List.nodup_cons.mp keyed.names
      have restKeyed : Keyed rest :=
        ⟨numberedRest, (List.nodup_cons.mp keyed.indices).2, (List.forall_mem_cons.mp keyed.free).2,
          distinct⟩
      have added : Named.put (Text.lower binding.host) (binding.index.val : Int) keymap =
          keymap ++ hostKeys [binding] := Named.put_of_new new _
      have unusedLater : ∀ other ∈ rest, other.name ∉ Named.names (keymap ++ hostKeys [binding]) :=
        unused_append notAgain unusedRest
      rw [entries, List.map_cons, extendKeymap, numbered]
      dsimp only
      rw [added]
      exact (ih restKeyed unusedLater).trans (congrArg Except.ok (List.append_assoc ..))

theorem keymapOf_entries (keyed : Keyed bindings) :
    keymapOf (entries bindings) = .ok (hostKeys bindings) :=
  keyed.extendKeymap_entries fun _ _ => List.not_mem_nil

end Keyed

theorem foldl_put {bindings : List Binding} {keymap : Named (Fin 16)}
    (names : (bindings.map Binding.name).Nodup)
    (unused : ∀ binding ∈ bindings, binding.name ∉ keymap.names) :
    bindings.foldl (fun keymap binding => Named.put binding.name binding.index keymap) keymap =
      keymap ++ bindings.map fun binding => (binding.name, binding.index) := by
  induction bindings generalizing keymap with
  | nil => exact (List.append_nil keymap).symm
  | cons binding rest ih =>
      obtain ⟨notAgain, distinct⟩ := List.nodup_cons.mp names
      obtain ⟨new, unusedRest⟩ := List.forall_mem_cons.mp unused
      rw [List.foldl_cons, Named.put_of_new new,
        ih distinct (unused_append notAgain unusedRest), List.append_assoc]
      rfl

theorem Keyed.keymap_eq {preferences : Preferences} (keyed : Keyed preferences.keyboard) :
    preferences.keymap =
      preferences.keyboard.map fun binding => (binding.name, binding.index) :=
  foldl_put keyed.names fun _ _ => List.not_mem_nil

/-- The keys of a keypad, in the order of the standard keyboard. -/
def keypadKeys : List String :=
  ["1", "2", "3", "C", "4", "5", "6", "D", "7", "8", "9", "E", "A", "0", "B", "F"]

/-- A table by which each key of the keypad has a key of the host that is its own. -/
structure UsableKeyboard (keyboard : Fields) : Prop where
  keys : Named.names keyboard = keypadKeys
  keymap : ∃ keymap, keymapOf keyboard = .ok keymap ∧ keymap.Distinct ∧ keymap.length = 16 ∧
    (keymap.map Prod.snd).Perm ((List.range 16).map Int.ofNat) ∧
    ∀ name ∈ keymap.names, name ∉ reservedKeys

theorem usable_of_keyed {bindings : List Binding} (keyed : Keyed bindings)
    (keys : keypadKeys <+: Named.names (entries bindings)) : UsableKeyboard (entries bindings) := by
  have names : (Named.names (entries bindings)).length = bindings.length := by
    rw [Named.names, entries, List.length_map, List.length_map]
  have atLeast : 16 ≤ bindings.length := names ▸ keys.length_le
  have full : bindings.length = 16 := Nat.le_antisymm keyed.length_le atLeast
  refine ⟨(keys.eq_of_length (names.trans full).symm).symm, hostKeys bindings,
    keyed.keymapOf_entries, ?_, ?_, ?_, ?_⟩
  · rw [Named.Distinct, names_hostKeys]
    exact keyed.names
  · rw [hostKeys, List.length_map, full]
  · rw [numbers_hostKeys]
    exact (keyed.indices_perm full).map _
  · rw [names_hostKeys]
    exact List.forall_mem_map.mpr keyed.free

theorem keyed_standardKeyboard : Keyed Preferences.standardKeyboard :=
  have bound : bindingsOf [] (entries Preferences.standardKeyboard) =
    .ok Preferences.standardKeyboard := rfl
  (bindingsOf_eq_ok.mp bound).1.toKeyed

end Chip8.Settings
