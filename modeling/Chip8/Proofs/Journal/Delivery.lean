import Chip8.Journal.FileSink
import Mathlib.Data.List.Basic
import Mathlib.Data.List.Induction

/-! Entries are numbered in the order in which they come, so that equal ones can be told apart. A
ledger says which numbers are in the file and which are held back; it depends on nothing but which
attempts the file takes. Each number is in one of the two places, once, and those held back are in
order. -/

namespace Chip8.Journal

variable {α β : Type} {accepts : Nat → Bool}

/-- A row of things to be tried, each with what becomes of the attempt; the first attempt has the
number `first`. -/
def tries (accepts : Nat → Bool) (first : Nat) (row : List α) : List (α × Bool) :=
  (row.zipIdx first).map fun (thing, number) => (thing, accepts number)

/-- The things whose attempts ended in this way. -/
def ending (taken : Bool) (attempts : List (α × Bool)) : List α :=
  (attempts.filter fun attempt => attempt.2 == taken).map Prod.fst

theorem tries_cons (first : Nat) (thing : α) (row : List α) :
    tries accepts first (thing :: row) = (thing, accepts first) :: tries accepts (first + 1) row := by
  simp only [tries, List.zipIdx_cons, List.map_cons]

theorem things_tries (first : Nat) (row : List α) : (tries accepts first row).map Prod.fst = row := by
  induction row generalizing first with
  | nil => rfl
  | cons thing row ih => rw [tries_cons, List.map_cons, ih]

theorem tries_map (f : α → β) (first : Nat) (row : List α) :
    tries accepts first (row.map f) = (tries accepts first row).map (Prod.map f id) := by
  induction row generalizing first with
  | nil => rfl
  | cons thing row ih =>
      rw [List.map_cons, tries_cons, tries_cons, ih, List.map_cons]
      rfl

theorem ending_map (f : α → β) (taken : Bool) (attempts : List (α × Bool)) :
    ending taken (attempts.map (Prod.map f id)) = (ending taken attempts).map f := by
  simp only [ending, List.filter_map, List.map_map]
  rfl

theorem ending_sublist (taken : Bool) (attempts : List (α × Bool)) :
    (ending taken attempts).Sublist (attempts.map Prod.fst) :=
  List.filter_sublist.map Prod.fst

theorem endings_perm (attempts : List (α × Bool)) :
    (ending true attempts ++ ending false attempts).Perm (attempts.map Prod.fst) := by
  have others : (fun attempt : α × Bool => attempt.2 == false) = fun attempt => !(attempt.2 == true) := by
    funext attempt
    cases attempt.2 <;> rfl
  rw [ending, ending, others, ← List.map_append]
  exact (List.filter_append_perm _ attempts).map Prod.fst

/-- The numbers of the entries in the file and of those held back, and the number of attempts. -/
structure Ledger where
  file : List Nat
  pending : List Nat
  attempts : Nat
  deriving DecidableEq, Repr

namespace Ledger

/-- The ledger after the attempts that an entry of this number causes. -/
def next (accepts : Nat → Bool) (ledger : Ledger) (number : Nat) : Ledger where
  file := ledger.file ++ ending true (tries accepts ledger.attempts (ledger.pending ++ [number]))
  pending := ending false (tries accepts ledger.attempts (ledger.pending ++ [number]))
  attempts := ledger.attempts + (ledger.pending.length + 1)

/-- The ledger of so many entries. -/
def after (accepts : Nat → Bool) : Nat → Ledger
  | 0 => ⟨[], [], 0⟩
  | count + 1 => (after accepts count).next accepts count

theorem once (accepts : Nat → Bool) (count : Nat) :
    ((after accepts count).file ++ (after accepts count).pending).Perm (List.range count) := by
  induction count with
  | zero => exact .refl _
  | succ count ih =>
      have settled := endings_perm (tries accepts (after accepts count).attempts
        ((after accepts count).pending ++ [count]))
      rw [things_tries] at settled
      rw [after, next, List.append_assoc, List.range_succ]
      refine (settled.append_left _).trans ?_
      rw [← List.append_assoc]
      exact ih.append_right _

theorem pending_lt {count number : Nat} (pending : number ∈ (after accepts count).pending) :
    number < count :=
  List.mem_range.mp ((once accepts count).mem_iff.mp (List.mem_append_right _ pending))

theorem file_lt {count number : Nat} (filed : number ∈ (after accepts count).file) :
    number < count :=
  List.mem_range.mp ((once accepts count).mem_iff.mp (List.mem_append_left _ filed))

theorem tried_inOrder {count : Nat} (held : (after accepts count).pending.Pairwise (· < ·)) :
    ((after accepts count).pending ++ [count]).Pairwise (· < ·) := by
  refine List.pairwise_append.mpr ⟨held, List.pairwise_singleton _ _, ?_⟩
  intro number pending last member
  rw [List.mem_singleton.mp member]
  exact pending_lt pending

theorem inOrder (accepts : Nat → Bool) (count : Nat) :
    (after accepts count).pending.Pairwise (· < ·) := by
  induction count with
  | zero => exact .nil
  | succ count ih =>
      have held := ending_sublist false (tries accepts (after accepts count).attempts
        ((after accepts count).pending ++ [count]))
      rw [things_tries] at held
      exact (tried_inOrder ih).sublist held

end Ledger

namespace Template

/-- The entries of records with their origins. A record of which no entry can be made has none. -/
def entries (template : Template) (emissions : List (Origin × Record)) : List Entry :=
  emissions.filterMap fun (origin, record) => (template.entry origin record).toOption

section

variable {template : Template} {origin : Origin} {record : Record}

theorem entries_of_ok {entry : Entry} (made : template.entry origin record = .ok entry)
    (emissions : List (Origin × Record)) :
    template.entries (emissions ++ [(origin, record)]) = template.entries emissions ++ [entry] := by
  simp [entries, made, Except.toOption]

theorem entries_of_error {flaw : Flaw} (unmade : template.entry origin record = .error flaw)
    (emissions : List (Origin × Record)) :
    template.entries (emissions ++ [(origin, record)]) = template.entries emissions := by
  simp [entries, unmade, Except.toOption]

end

/-- Every record has an entry by the template, and one that can be stored. -/
def Plain (template : Template) : Prop :=
  ∀ origin record, ∃ text, template.entry origin record = .ok (Text.points text)

theorem Plain.storable {template : Template} (plain : template.Plain)
    {emissions : List (Origin × Record)} {entry : Entry} (member : entry ∈ template.entries emissions) :
    Text.unstorable? entry = none := by
  obtain ⟨⟨origin, record⟩, _, found⟩ := List.mem_filterMap.mp member
  obtain ⟨text, made⟩ := plain origin record
  simp only [made, Except.toOption, Option.some.injEq] at found
  rw [← found]
  exact Text.unstorable?_points text

theorem standard_plain : standard.Plain := fun origin record => ⟨_, entry_standard origin record⟩

theorem message_plain : (ofText "%(message)s").Plain := by
  intro origin record
  have place : ofText "%(message)s" = [textPlace "message" 10] := rfl
  have found : (record.fields origin).lookup "message" = some (.text record.message) := rfl
  refine ⟨record.message, ?_⟩
  simp only [place, Template.entry, entryFrom, textPlace, fill_text found, bind, Except.bind, pure,
    Except.pure, List.append_nil]

end Template

namespace FileSink

variable {sink : FileSink} {entry : Entry}

theorem attemptsFor_eq : sink.attemptsFor accepts entry =
    tries accepts sink.attempts (sink.held ++ [entry]) := by
  have shifted : (sink.held ++ [entry]).zipIdx sink.attempts = _ := List.zipIdx_eq_map_add
  rw [attemptsFor, tries, shifted, List.map_map]
  exact List.map_congr_left fun tried _ => by simp

theorem foldl_attempt (row : List Entry) (sink : FileSink) :
    row.foldl (attempt accepts) sink =
      ⟨sink.written ++ ending true (tries accepts sink.attempts row),
        sink.held ++ ending false (tries accepts sink.attempts row), sink.attempts + row.length⟩ := by
  induction row generalizing sink with
  | nil => simp [tries, ending]
  | cons entry row ih =>
      rw [List.foldl_cons, ih, tries_cons]
      cases taken : accepts sink.attempts <;>
        simp [attempt, taken, ending, Nat.add_assoc, Nat.add_comm 1]

theorem add_eq : sink.add accepts entry =
    ⟨sink.written ++ ending true (sink.attemptsFor accepts entry),
      ending false (sink.attemptsFor accepts entry), sink.attempts + (sink.held.length + 1)⟩ := by
  rw [add, foldl_attempt, attemptsFor_eq, List.length_append, List.length_singleton, List.nil_append]

theorem take_of_error {template : Template} {origin : Origin} {record : Record} {flaw : Flaw}
    (unmade : template.entry origin record = .error flaw) :
    sink.take accepts template origin record = .error (.flawed flaw) := by
  simp only [take, unmade, Except.mapError, bind, Except.bind]

theorem take_eq_ok {template : Template} {origin : Origin} {record : Record}
    (made : template.entry origin record = .ok entry)
    (storable : ∀ tried ∈ ending true (sink.attemptsFor accepts entry),
      Text.unstorable? tried = none) :
    sink.take accepts template origin record =
      .ok (sink.attemptsFor accepts entry, sink.add accepts entry) := by
  simp only [take, made, Except.mapError, bind, Except.bind]
  split
  · rename_i reason found
    obtain ⟨⟨tried, taken⟩, member, caused⟩ := List.exists_of_findSome?_eq_some found
    cases taken with
    | false => cases caused
    | true =>
        have filed : tried ∈ ending true (sink.attemptsFor accepts entry) :=
          List.mem_map.mpr ⟨_, List.mem_filter.mpr ⟨member, rfl⟩, rfl⟩
        exact nomatch (storable tried filed).symm.trans caused
  · rfl

/-- The sink after a further record. One of which no entry can be made is refused before anything is
tried, and leaves the sink as it is. -/
def after (accepts : Nat → Bool) (template : Template) (sink : FileSink)
    (emission : Origin × Record) : FileSink :=
  match sink.take accepts template emission.1 emission.2 with
  | .ok (_, next) => next
  | .error _ => sink

def afterAll (accepts : Nat → Bool) (template : Template) (emissions : List (Origin × Record)) :
    FileSink :=
  emissions.foldl (after accepts template) .empty

/-- The sink of a ledger, for entries with these numbers. -/
def ofLedger (entries : List Entry) (ledger : Ledger) : FileSink :=
  ⟨ledger.file.map (entries.getD · []), ledger.pending.map (entries.getD · []), ledger.attempts⟩

theorem attemptsFor_ofLedger (accepts : Nat → Bool) (entries : List Entry) (ledger : Ledger) (number : Nat) :
    (ofLedger entries ledger).attemptsFor accepts (entries.getD number []) =
      (tries accepts ledger.attempts (ledger.pending ++ [number])).map
        (Prod.map (entries.getD · []) id) := by
  rw [attemptsFor_eq, ← tries_map, List.map_append, List.map_singleton]
  rfl

theorem add_ofLedger (accepts : Nat → Bool) (entries : List Entry) (ledger : Ledger) (number : Nat) :
    (ofLedger entries ledger).add accepts (entries.getD number []) =
      ofLedger entries (ledger.next accepts number) := by
  rw [add_eq, attemptsFor_ofLedger, ending_map, ending_map]
  simp [ofLedger, Ledger.next]

theorem ofLedger_append (accepts : Nat → Bool) (entries more : List Entry) :
    ofLedger (entries ++ more) (.after accepts entries.length) =
      ofLedger entries (.after accepts entries.length) := by
  have same (number : Nat) (before : number < entries.length) :
      (entries ++ more).getD number [] = entries.getD number [] := by
    rw [List.getD_eq_getElem?_getD, List.getElem?_append_left before, List.getD_eq_getElem?_getD]
  rw [ofLedger, ofLedger]
  congr 1
  · exact List.map_congr_left fun number filed => same number (Ledger.file_lt filed)
  · exact List.map_congr_left fun number pending => same number (Ledger.pending_lt pending)

theorem ofLedger_succ (accepts : Nat → Bool) (entries : List Entry) (entry : Entry) :
    ofLedger (entries ++ [entry]) (.after accepts (entries ++ [entry]).length) =
      (ofLedger entries (.after accepts entries.length)).add accepts entry := by
  have last : (entries ++ [entry]).getD entries.length [] = entry := by simp
  have added := add_ofLedger accepts (entries ++ [entry]) (.after accepts entries.length)
    entries.length
  rw [last, ofLedger_append] at added
  rw [added, List.length_append, List.length_singleton, Ledger.after]

/-- What the file takes of these entries can be stored. -/
def Storable (accepts : Nat → Bool) (entries : List Entry) : Prop :=
  ∀ entry ∈ (ofLedger entries (.after accepts entries.length)).written, Text.unstorable? entry = none

theorem storable_append {entries : List Entry} :
    Storable accepts (entries ++ [entry]) ↔ Storable accepts entries ∧
      ∀ tried ∈ ending true
          ((ofLedger entries (.after accepts entries.length)).attemptsFor accepts entry),
        Text.unstorable? tried = none := by
  rw [Storable, ofLedger_succ, add_eq, Storable]
  exact List.forall_mem_append

theorem afterAll_concat (template : Template) (emissions : List (Origin × Record))
    (emission : Origin × Record) :
    afterAll accepts template (emissions ++ [emission]) =
      after accepts template (afterAll accepts template emissions) emission := by
  rw [afterAll, List.foldl_append]
  rfl

theorem afterAll_eq {template : Template} {emissions : List (Origin × Record)}
    (storable : Storable accepts (template.entries emissions)) :
    afterAll accepts template emissions =
      ofLedger (template.entries emissions) (.after accepts (template.entries emissions).length) := by
  induction emissions using List.reverseRecOn with
  | nil => rfl
  | append_singleton emissions emission ih =>
      obtain ⟨origin, record⟩ := emission
      cases made : template.entry origin record with
      | error flaw =>
          rw [Template.entries_of_error made] at storable ⊢
          rw [afterAll_concat, ih storable, after, take_of_error made]
      | ok entry =>
          rw [Template.entries_of_ok made] at storable ⊢
          obtain ⟨earlier, taken⟩ := storable_append.mp storable
          rw [afterAll_concat, ih earlier, after, take_eq_ok made taken, ofLedger_succ]

theorem storable_of_plain {template : Template} (plain : template.Plain) (accepts : Nat → Bool)
    (emissions : List (Origin × Record)) : Storable accepts (template.entries emissions) := by
  intro entry filed
  obtain ⟨number, member, rfl⟩ := List.mem_map.mp filed
  rw [List.getD_eq_getElem?_getD, List.getElem?_eq_getElem (Ledger.file_lt member), Option.getD_some]
  exact plain.storable (List.getElem_mem _)

def nowhere : Origin := ⟨"", 0, 0, 0, 0⟩

def ofMessages (messages : List String) : List (Origin × Record) :=
  messages.map fun message => (nowhere, info message)

end FileSink

end Chip8.Journal
