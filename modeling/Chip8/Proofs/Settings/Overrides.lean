import Chip8.Proofs.Settings.Merge

/-! # Laws of merging

What is at a path of a merged table, in which order its names are, and that a merge that was made
changes nothing when it is made again. Tables lie in tables here; a table in a list is a part of that
list, which is never merged.
-/

namespace Chip8.Settings

/-- No name comes twice in a table or in a table within it. -/
inductive Unambiguous : Fields → Prop where
  | intro {fields : Fields} (distinct : fields.Distinct)
      (within : ∀ name inner, (name, .table inner) ∈ fields → Unambiguous inner) : Unambiguous fields

def Value.at? : List String → Value → Option Value
  | [], value => some value
  | name :: rest, .table fields => (Named.find? fields name).bind (Value.at? rest)
  | _ :: _, _ => none

/-- What is to become of a value and an override where there may be either: two tables are merged, and
else the override counts if there is one. -/
def Value.merged (old new : Option Value) : Option Value :=
  match old, new with
  | some (.table fields), some (.table overrides) => some (.table (mergeFields fields overrides))
  | _, some value => some value
  | _, none => old

/-- A path that leads to tables in both of two tables. -/
def Joint (path : List String) (fields overrides : Fields) : Prop :=
  (∃ inner, Value.at? path (.table fields) = some (.table inner)) ∧
    ∃ inner, Value.at? path (.table overrides) = some (.table inner)

theorem Unambiguous.distinct {fields : Fields} : Unambiguous fields → fields.Distinct
  | intro distinct _ => distinct

namespace Named

variable {α : Type} {row other : Named α}

theorem mem_of_find? {name : String} {thing : α} (found : find? row name = some thing) :
    (name, thing) ∈ row := by
  obtain ⟨before, after, rfl, _⟩ := List.lookup_eq_some_iff.mp found
  exact List.mem_append_right _ List.mem_cons_self

theorem Distinct.ext (distinct : row.Distinct) (sameNames : row.names = other.names)
    (sameThings : ∀ name, find? row name = find? other name) : row = other := by
  induction row generalizing other with
  | nil => exact (List.map_eq_nil_iff.mp sameNames.symm).symm
  | cons pair rest ih =>
      cases other with
      | nil => cases sameNames
      | cons otherPair otherRest =>
          obtain ⟨name, thing⟩ := pair
          obtain ⟨otherName, otherThing⟩ := otherPair
          obtain ⟨rfl, sameRest⟩ := List.cons.inj sameNames
          obtain ⟨new, distinctRest⟩ := List.nodup_cons.mp distinct
          have here := sameThings name
          simp only [find?, List.lookup_cons_self, Option.some.injEq] at here
          have later : rest = otherRest := by
            refine ih distinctRest sameRest fun wanted => ?_
            have there := sameThings wanted
            by_cases first : wanted = name
            · subst first
              have absent : find? rest wanted = none := find?_eq_none_iff.mpr new
              have otherAbsent : find? otherRest wanted = none :=
                find?_eq_none_iff.mpr fun member => new (sameRest ▸ member)
              rw [absent, otherAbsent]
            · have unequal : (wanted == name) = false := beq_eq_false_iff_ne.mpr first
              simpa only [find?, List.lookup_cons, unequal] using there
          rw [here, later]

end Named

open Named

theorem merged_none (old : Option Value) : Value.merged old none = old := by
  cases old with
  | none => rfl
  | some old => cases old <;> rfl

theorem merged_some (old : Option Value) (value : Value) :
    Value.merged old (some value) = some (Value.override old value) := by
  cases old with
  | none => cases value <;> simp only [Value.override, Value.merged]
  | some old => cases old <;> cases value <;> simp only [Value.override, Value.merged]

theorem find?_merged {overrides : Fields} (distinct : overrides.Distinct) (fields : Fields)
    (name : String) :
    find? (mergeFields fields overrides) name =
      Value.merged (find? fields name) (find? overrides name) := by
  rw [find?_mergeFields distinct]
  cases find? overrides name with
  | none => exact (merged_none _).symm
  | some value => exact (merged_some _ _).symm

theorem names_merged {overrides : Fields} (distinct : overrides.Distinct) (fields : Fields) :
    (mergeFields fields overrides).names =
      fields.names ++ overrides.names.filter fun name => name ∉ fields.names := by
  induction overrides generalizing fields with
  | nil =>
      rw [mergeFields]
      exact (List.append_nil _).symm
  | cons override rest ih =>
      obtain ⟨name, value⟩ := override
      obtain ⟨new, distinctRest⟩ := List.nodup_cons.mp distinct
      rw [mergeFields, ih distinctRest, names_put]
      have whole : names ((name, value) :: rest) = name :: names rest := rfl
      by_cases known : name ∈ fields.names
      · rw [if_pos known, whole, List.filter_cons_of_neg (by simpa using known)]
      · have others : ∀ other ∈ names rest,
            decide (other ∉ fields.names ++ [name]) = decide (other ∉ fields.names) := by
          intro other member
          have away : other ≠ name := fun same => new (same ▸ member)
          simp [away]
        rw [if_neg known, whole, List.filter_cons_of_pos (by simpa using known),
          List.filter_congr others, List.append_assoc, List.singleton_append]

theorem distinct_merged {fields overrides : Fields} (distinct : fields.Distinct)
    (overridesDistinct : overrides.Distinct) : (mergeFields fields overrides).Distinct := by
  rw [Distinct, names_merged overridesDistinct, List.nodup_append]
  refine ⟨distinct, overridesDistinct.filter _, fun name member other new same => ?_⟩
  have absent := of_decide_eq_true (List.mem_filter.mp new).2
  exact absent (same ▸ member)

theorem names_merged_of_subset {overrides : Fields} (distinct : overrides.Distinct) {fields : Fields}
    (known : overrides.names ⊆ fields.names) : (mergeFields fields overrides).names = fields.names := by
  have nothingNew : (overrides.names.filter fun name => name ∉ fields.names) = [] :=
    List.filter_eq_nil_iff.mpr fun name member new => of_decide_eq_true new (known member)
  rw [names_merged distinct, nothingNew, List.append_nil]

theorem mergeFields_nil (fields : Fields) : mergeFields fields [] = fields := by
  rw [mergeFields]

theorem nil_mergeFields {overrides : Fields} (distinct : overrides.Distinct) :
    mergeFields [] overrides = overrides := by
  have nothing : Distinct ([] : Fields) := List.nodup_nil
  refine (distinct_merged nothing distinct).ext ?_ fun name => ?_
  · rw [names_merged distinct]
    simp [names]
  · rw [find?_merged distinct]
    cases find? overrides name <;> rfl

theorem mergeFields_self {fields : Fields} (unambiguous : Unambiguous fields) :
    mergeFields fields fields = fields := by
  induction unambiguous with
  | @intro fields distinct within ih =>
      refine (distinct_merged distinct distinct).ext ?_ fun name => ?_
      · exact names_merged_of_subset distinct (List.Subset.refl _)
      · rw [find?_merged distinct]
        cases found : find? fields name with
        | none => rfl
        | some value =>
            cases value with
            | table inner =>
                have same := ih name inner (mem_of_find? found)
                rw [Value.merged, same]
            | _ => rfl

theorem merged_again {old new : Option Value}
    (self : ∀ inner, new = some (.table inner) → mergeFields inner inner = inner)
    (again : ∀ fields inner, old = some (.table fields) → new = some (.table inner) →
      mergeFields (mergeFields fields inner) inner = mergeFields fields inner) :
    Value.merged (Value.merged old new) new = Value.merged old new := by
  cases new with
  | none => rw [merged_none]
  | some value =>
      cases value with
      | table inner =>
          have itself : Value.merged (some (.table inner)) (some (.table inner)) =
              some (.table inner) := by
            rw [Value.merged, self inner rfl]
          cases old with
          | none => exact itself
          | some old =>
              cases old with
              | table fields => simp only [Value.merged, again fields inner rfl rfl]
              | _ => exact itself
      | _ =>
          cases old with
          | none => rfl
          | some old => cases old <;> rfl

/-- Making a merge again changes nothing: a table that came in is merged with itself, and a merge
within is made again. -/
theorem mergeFields_again {fields overrides : Fields} (fieldsUnambiguous : Unambiguous fields)
    (unambiguous : Unambiguous overrides) :
    mergeFields (mergeFields fields overrides) overrides = mergeFields fields overrides := by
  induction unambiguous generalizing fields with
  | @intro overrides distinct within ih =>
      obtain ⟨fieldsDistinct, fieldsWithin⟩ := fieldsUnambiguous
      have mergedDistinct := distinct_merged fieldsDistinct distinct
      refine (distinct_merged mergedDistinct distinct).ext ?_ fun name => ?_
      · refine names_merged_of_subset distinct fun name member => ?_
        rw [names_merged distinct]
        by_cases known : name ∈ fields.names
        · exact List.mem_append_left _ known
        · exact List.mem_append_right _ (List.mem_filter.mpr ⟨member, decide_eq_true known⟩)
      · rw [find?_merged distinct (mergeFields fields overrides), find?_merged distinct]
        refine merged_again (fun inner found => ?_) fun old inner foundOld found => ?_
        · exact mergeFields_self (within name inner (mem_of_find? found))
        · exact ih name inner (mem_of_find? found) (fieldsWithin name old (mem_of_find? foundOld))

/-- What is at a path of a merged table, if both tables have tables on the way there. -/
theorem at?_mergeFields {fields overrides : Fields} (unambiguous : Unambiguous overrides)
    {path : List String}
    (within : ∀ before, before <+: path → before ≠ path → Joint before fields overrides) :
    Value.at? path (.table (mergeFields fields overrides)) =
      Value.merged (Value.at? path (.table fields)) (Value.at? path (.table overrides)) := by
  induction path generalizing fields overrides with
  | nil => rfl
  | cons name rest ih =>
      obtain ⟨distinct, overridesWithin⟩ := unambiguous
      simp only [Value.at?]
      rw [find?_merged distinct]
      cases rest with
      | nil => simp only [Value.at?, Option.bind_fun_some]
      | cons next later =>
          have first : [name] <+: name :: next :: later := List.prefix_append [name] _
          obtain ⟨⟨inner, found⟩, ⟨overriding, foundOverride⟩⟩ := within [name] first (by simp)
          replace found : find? fields name = some (.table inner) := by
            simpa [Value.at?] using found
          replace foundOverride : find? overrides name = some (.table overriding) := by
            simpa [Value.at?] using foundOverride
          rw [found, foundOverride]
          refine ih (overridesWithin name overriding (mem_of_find? foundOverride)) ?_
          intro before start proper
          have joint := within (name :: before) (List.cons_prefix_cons.mpr ⟨rfl, start⟩) (by simpa)
          simpa [Joint, Value.at?, found, foundOverride] using joint

/-- The laws that a merge obeys. -/
structure MergeLaws (fields overrides : Fields) : Prop where
  names : (mergeFields fields overrides).names =
    fields.names ++ overrides.names.filter fun name => name ∉ fields.names
  paths : ∀ path, (∀ before, before <+: path → before ≠ path → Joint before fields overrides) →
    Value.at? path (.table (mergeFields fields overrides)) =
      Value.merged (Value.at? path (.table fields)) (Value.at? path (.table overrides))
  nothing : mergeFields fields [] = fields
  intoNothing : mergeFields [] overrides = overrides
  itself : mergeFields fields fields = fields
  again : mergeFields (mergeFields fields overrides) overrides = mergeFields fields overrides

theorem Unambiguous.mergeLaws {fields overrides : Fields} (fieldsUnambiguous : Unambiguous fields)
    (unambiguous : Unambiguous overrides) : MergeLaws fields overrides where
  names := names_merged unambiguous.distinct fields
  paths _ within := at?_mergeFields unambiguous within
  nothing := mergeFields_nil fields
  intoNothing := nil_mergeFields unambiguous.distinct
  itself := mergeFields_self fieldsUnambiguous
  again := mergeFields_again fieldsUnambiguous unambiguous

/-- A table with a table to merge into, one to be replaced, and a value to be replaced by a table. -/
def underlaid : Fields := [
  ("general", .table [("fps", .whole 60), ("scale", .table [("x", .whole 8)])]),
  ("sound", .table [("volume", .whole 1)]),
  ("title", .text "")]

def overlaid : Fields := [
  ("title", .table [("short", .null)]),
  ("colour", .list [.whole 0]),
  ("general", .table [("vsync", .truth true), ("scale", .table [("y", .whole 4), ("x", .whole 2)])]),
  ("sound", .truth false)]

theorem underlaid_mergeLaws :
    Unambiguous underlaid ∧ Unambiguous overlaid ∧ MergeLaws underlaid overlaid := by
  have lower : Unambiguous underlaid := by
    refine .intro (by decide : underlaid.names.Nodup) fun name inner member => ?_
    simp only [underlaid, List.mem_cons, Prod.mk.injEq, Value.table.injEq, reduceCtorEq, and_false,
      List.not_mem_nil, or_self, or_false] at member
    obtain ⟨rfl, rfl⟩ | ⟨rfl, rfl⟩ := member
    · refine .intro (by decide : (names _).Nodup) fun name inner member => ?_
      simp only [List.mem_cons, Prod.mk.injEq, reduceCtorEq, and_false, Value.table.injEq,
        List.not_mem_nil, or_false, false_or] at member
      obtain ⟨rfl, rfl⟩ := member
      exact .intro (by decide : (names _).Nodup) (by simp)
    · exact .intro (by decide : (names _).Nodup) (by simp)
  have upper : Unambiguous overlaid := by
    refine .intro (by decide : overlaid.names.Nodup) fun name inner member => ?_
    simp only [overlaid, List.mem_cons, Prod.mk.injEq, Value.table.injEq, reduceCtorEq, and_false,
      List.not_mem_nil, or_self, or_false, false_or] at member
    obtain ⟨rfl, rfl⟩ | ⟨rfl, rfl⟩ := member
    · exact .intro (by decide : (names _).Nodup) (by simp)
    · refine .intro (by decide : (names _).Nodup) fun name inner member => ?_
      simp only [List.mem_cons, Prod.mk.injEq, reduceCtorEq, and_false, Value.table.injEq,
        List.not_mem_nil, or_false, false_or] at member
      obtain ⟨rfl, rfl⟩ := member
      exact .intro (by decide : (names _).Nodup) (by simp)
  exact ⟨lower, upper, lower.mergeLaws upper⟩

end Chip8.Settings
