namespace Chip8.Settings

abbrev Named (α : Type) := List (String × α)

namespace Named

variable {α : Type}

def find? (row : Named α) (name : String) : Option α := row.lookup name

/-- Gives a name a thing. A name that is there keeps its place; a new one comes last. -/
def put (name : String) (thing : α) : Named α → Named α
  | [] => [(name, thing)]
  | (other, old) :: rest =>
      if other = name then (name, thing) :: rest else (other, old) :: put name thing rest

theorem find?_put (name other : String) (thing : α) (row : Named α) :
    find? (put name thing row) other = if other = name then some thing else find? row other := by
  induction row with
  | nil =>
      by_cases same : other = name
      · simp [find?, put, same]
      · simp [find?, put, same]
  | cons pair rest ih =>
      obtain ⟨first, old⟩ := pair
      simp only [find?] at ih ⊢
      unfold put
      by_cases here : first = name
      · by_cases same : other = name
        · simp [here, same]
        · have unequal : (other == name) = false := by simp [same]
          simp [List.lookup_cons, here, same, unequal]
      · by_cases same : other = first
        · simp [here, same]
        · have unequal : (other == first) = false := by simp [same]
          simp [List.lookup_cons, here, unequal, ih]

def erase (row : Named α) (name : String) : Named α := row.filter fun pair => pair.1 != name

end Named

inductive Value where
  | null
  | truth (value : Bool)
  | whole (value : Int)
  | real (value : Float)
  | text (value : String)
  /-- A date, a time of day or both, as it was written. -/
  | moment (text : String)
  | list (items : List Value)
  | table (fields : List (String × Value))
  deriving Inhabited

abbrev Fields := Named Value

def Value.fields? : Value → Option Fields
  | .table fields => some fields
  | _ => none

mutual

def Value.override (old : Option Value) : Value → Value
  | .table overrides =>
      match old with
      | some (.table fields) => .table (mergeFields fields overrides)
      | _ => .table overrides
  | value => value

def mergeFields (fields : Fields) : Fields → Fields
  | [] => fields
  | (name, value) :: rest =>
      mergeFields (Named.put name (Value.override (Named.find? fields name) value) fields) rest

end

end Chip8.Settings
