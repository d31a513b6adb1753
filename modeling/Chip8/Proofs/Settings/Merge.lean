import Chip8.Settings.Fields

namespace Chip8.Settings

theorem bind_eq_ok {ε α β : Type} {first : Except ε α} {next : α → Except ε β} {result : β} :
    first >>= next = .ok result ↔ ∃ value, first = .ok value ∧ next value = .ok result := by
  cases first with
  | error problem => exact ⟨fun same => (nomatch same), fun ⟨_, same, _⟩ => (nomatch same)⟩
  | ok value => exact ⟨fun same => ⟨value, rfl, same⟩, fun ⟨_, same, rest⟩ => by cases same; exact rest⟩

namespace Named

variable {α : Type} {row : Named α} {name : String}

def names (row : Named α) : List String := row.map Prod.fst

def Distinct (row : Named α) : Prop := row.names.Nodup

theorem find?_eq_none_iff : find? row name = none ↔ name ∉ row.names := by
  induction row with
  | nil => simp [find?, names]
  | cons pair rest ih =>
      obtain ⟨first, thing⟩ := pair
      by_cases here : name = first
      · simp [find?, names, here]
      · have unequal : (name == first) = false := beq_eq_false_iff_ne.mpr here
        simp only [find?, names] at ih
        simp [find?, names, List.lookup_cons, here, unequal, ih]

theorem names_put (thing : α) :
    (put name thing row).names = if name ∈ row.names then row.names else row.names ++ [name] := by
  induction row with
  | nil => rfl
  | cons pair rest ih =>
      obtain ⟨first, old⟩ := pair
      simp only [names] at ih
      unfold put
      by_cases here : first = name
      · simp [names, here]
      · have away : name ≠ first := Ne.symm here
        by_cases later : name ∈ rest.map Prod.fst
        · simp [names, here, ih, later]
        · simp [names, here, away, ih, later]

theorem Distinct.put (distinct : row.Distinct) (thing : α) : (Named.put name thing row).Distinct := by
  unfold Distinct at distinct ⊢
  rw [names_put]
  split
  · exact distinct
  · rename_i new
    refine List.nodup_append.mpr ⟨distinct, List.nodup_cons.mpr ⟨List.not_mem_nil, .nil⟩, ?_⟩
    intro other member last single same
    rw [List.mem_singleton.mp single] at same
    exact new (same ▸ member)

theorem mem_put {pair : String × α} {thing : α} (member : pair ∈ put name thing row) :
    pair = (name, thing) ∨ pair ∈ row := by
  induction row with
  | nil => exact .inl (List.mem_singleton.mp member)
  | cons first rest ih =>
      unfold put at member
      split at member
      · rcases List.mem_cons.mp member with same | later
        · exact .inl same
        · exact .inr (List.mem_cons_of_mem _ later)
      · rcases List.mem_cons.mp member with same | later
        · exact .inr (same ▸ List.mem_cons_self)
        · exact (ih later).imp_right (List.mem_cons_of_mem _)

theorem put_of_new (new : name ∉ row.names) (thing : α) :
    put name thing row = row ++ [(name, thing)] := by
  induction row with
  | nil => rfl
  | cons pair rest ih =>
      obtain ⟨first, old⟩ := pair
      have away : first ≠ name := fun same => new (same ▸ List.mem_cons_self)
      rw [put, if_neg away, ih fun later => new (List.mem_cons_of_mem first later)]
      rfl

end Named

open Named

theorem names_mergeFields (fields overrides : Fields) :
    fields.names <+: (mergeFields fields overrides).names := by
  induction overrides generalizing fields with
  | nil => simp only [mergeFields, List.prefix_rfl]
  | cons override rest ih =>
      obtain ⟨name, value⟩ := override
      rw [mergeFields]
      refine List.IsPrefix.trans ?_ (ih _)
      rw [names_put]
      split
      · exact List.prefix_rfl
      · exact List.prefix_append _ _

theorem find?_mergeFields {overrides : Fields} (distinct : overrides.Distinct) (fields : Fields)
    (name : String) :
    find? (mergeFields fields overrides) name =
      match find? overrides name with
      | none => find? fields name
      | some value => some (Value.override (find? fields name) value) := by
  induction overrides generalizing fields with
  | nil =>
      rw [mergeFields]
      rfl
  | cons override rest ih =>
      obtain ⟨first, value⟩ := override
      obtain ⟨new, later⟩ := List.nodup_cons.mp distinct
      rw [mergeFields, ih later, find?_put]
      by_cases here : name = first
      · subst here
        have unseen : find? rest name = none := find?_eq_none_iff.mpr new
        have found : find? ((name, value) :: rest) name = some value := by simp [find?]
        rw [unseen, found, if_pos rfl]
      · have unequal : (name == first) = false := beq_eq_false_iff_ne.mpr here
        have skipped : find? ((first, value) :: rest) name = find? rest name := by
          simp [find?, List.lookup_cons, unequal]
        rw [skipped, if_neg here]

end Chip8.Settings
