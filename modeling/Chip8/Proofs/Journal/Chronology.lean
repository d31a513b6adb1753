import Chip8.Proofs.Journal.Delivery
import Mathlib.Data.List.Sort

/-! # The order of delivery

With each new entry those held back are tried before it, one by one, and an entry gets ahead of an
older one when its attempt succeeds and that of the older one has failed just before. If this never
happens, the file holds the entries in their order, and those held back are the ones that follow. If
it happens, the file is out of order at the latest when nothing is held back any more.
-/

namespace Chip8.Journal

variable {α : Type} {accepts : Nat → Bool}

/-- No attempt succeeds behind one that has failed. -/
def Unbroken (attempts : List (α × Bool)) : Prop :=
  attempts.Pairwise fun earlier later => later.2 = true → earlier.2 = true

theorem mem_ending {taken : Bool} {attempts : List (α × Bool)} {thing : α} :
    thing ∈ ending taken attempts ↔ (thing, taken) ∈ attempts := by
  simp [ending]

/-- Of numbers in order, those that were taken are in order with the others behind them only if no
attempt succeeded behind one that failed. -/
theorem unbroken_iff {attempts : List (Nat × Bool)}
    (rising : (attempts.map Prod.fst).Pairwise (· < ·)) :
    Unbroken attempts ↔ (ending true attempts ++ ending false attempts).Pairwise (· < ·) := by
  have apart := List.pairwise_map.mp rising
  constructor
  · intro unbroken
    apply List.pairwise_append.mpr
    refine ⟨rising.sublist (ending_sublist _ _), rising.sublist (ending_sublist _ _), ?_⟩
    intro taken takenMember refused refusedMember
    obtain ⟨i, inside, atTaken⟩ := List.getElem_of_mem (mem_ending.mp takenMember)
    obtain ⟨j, within, atRefused⟩ := List.getElem_of_mem (mem_ending.mp refusedMember)
    rcases lt_trichotomy i j with before | same | behind
    · have less := List.pairwise_iff_getElem.mp apart i j inside within before
      rwa [atTaken, atRefused] at less
    · subst same
      exact nomatch atTaken.symm.trans atRefused
    · have succeeded := List.pairwise_iff_getElem.mp unbroken j i within inside behind
      rw [atTaken, atRefused] at succeeded
      exact nomatch succeeded rfl
  · intro ordered
    have across := (List.pairwise_append.mp ordered).2.2
    apply apart.imp_of_mem
    intro earlier later earlierMember laterMember before succeeded
    by_contra failed
    have refused : earlier.1 ∈ ending false attempts :=
      mem_ending.mpr (Bool.eq_false_of_not_eq_true failed ▸ earlierMember)
    have taken : later.1 ∈ ending true attempts := mem_ending.mpr (succeeded ▸ laterMember)
    exact Nat.lt_asymm before (across _ taken _ refused)

namespace Ledger

/-- The attempts that the entry of this number causes. -/
def attemptsOf (accepts : Nat → Bool) (number : Nat) : List (Nat × Bool) :=
  tries accepts (after accepts number).attempts ((after accepts number).pending ++ [number])

theorem numbers_attemptsOf (accepts : Nat → Bool) (number : Nat) :
    (attemptsOf accepts number).map Prod.fst = (after accepts number).pending ++ [number] :=
  things_tries _ _

/-- The file is in order, and what is held back belongs behind it. -/
def Rising (ledger : Ledger) : Prop :=
  (ledger.file ++ ledger.pending).Pairwise (· < ·)

theorem rising_succ (count : Nat) : (after accepts (count + 1)).Rising ↔
    (after accepts count).Rising ∧ Unbroken (attemptsOf accepts count) := by
  have tried : ((attemptsOf accepts count).map Prod.fst).Pairwise (· < ·) := by
    rw [numbers_attemptsOf]
    exact tried_inOrder (inOrder accepts count)
  have settled := endings_perm (attemptsOf accepts count)
  rw [numbers_attemptsOf] at settled
  have placed : (after accepts (count + 1)).Rising ↔ ((after accepts count).file ++
      (ending true (attemptsOf accepts count) ++ ending false (attemptsOf accepts count))).Pairwise
        (· < ·) := by
    rw [← List.append_assoc]
    rfl
  rw [placed, unbroken_iff tried, List.pairwise_append]
  constructor
  · intro ⟨file, ends, across⟩
    refine ⟨List.pairwise_append.mpr ⟨file, inOrder accepts count, ?_⟩, ends⟩
    intro filed filedMember pending pendingMember
    exact across filed filedMember pending
      (settled.mem_iff.mpr (List.mem_append_left _ pendingMember))
  · intro ⟨rising, ends⟩
    obtain ⟨file, _, across⟩ := List.pairwise_append.mp rising
    refine ⟨file, ends, ?_⟩
    intro filed filedMember number member
    rcases List.mem_append.mp (settled.mem_iff.mp member) with pending | new
    · exact across filed filedMember number pending
    · rw [List.mem_singleton.mp new]
      exact file_lt filedMember

theorem rising_iff (count : Nat) : (after accepts count).Rising ↔
    ∀ number < count, Unbroken (attemptsOf accepts number) := by
  induction count with
  | zero => exact ⟨fun _ number before => absurd before number.not_lt_zero, fun _ => .nil⟩
  | succ count ih => rw [rising_succ, ih, Nat.forall_lt_succ_right]

/-- Every entry has one place, and so numbers in order are all the numbers. -/
theorem rising_iff_range (count : Nat) : (after accepts count).Rising ↔
    (after accepts count).file ++ (after accepts count).pending = List.range count := by
  constructor
  · intro rising
    exact (once accepts count).eq_of_pairwise' rising List.pairwise_lt_range
  · intro all
    rw [Rising, all]
    exact List.pairwise_lt_range

/-- The file was in order all along, and nothing older was held back when an entry got into it at
once. -/
structure Chronological (accepts : Nat → Bool) (count : Nat) : Prop where
  inOrder : ∀ number ≤ count, (after accepts number).file.Pairwise (· < ·)
  caughtUp : ∀ number < count, (number, true) ∈ attemptsOf accepts number →
    (after accepts (number + 1)).pending = []

theorem Rising.caughtUp {number : Nat} (rising : (after accepts (number + 1)).Rising)
    (taken : (number, true) ∈ attemptsOf accepts number) :
    (after accepts (number + 1)).pending = [] := by
  have filed : number ∈ (after accepts (number + 1)).file :=
    List.mem_append_right _ (mem_ending.mpr taken)
  apply List.eq_nil_iff_forall_not_mem.mpr
  intro pending member
  have behind := (List.pairwise_append.mp rising).2.2 number filed pending member
  exact Nat.not_lt_of_le (Nat.le_of_lt_succ (pending_lt member)) behind

theorem chronological {count : Nat}
    (unbroken : ∀ number < count, Unbroken (attemptsOf accepts number)) :
    Chronological accepts count := by
  have rising (number : Nat) (upTo : number ≤ count) : (after accepts number).Rising :=
    (rising_iff number).mpr fun earlier before => unbroken earlier (before.trans_le upTo)
  refine ⟨fun number upTo => ?_, fun number before taken => ?_⟩
  · exact (List.pairwise_append.mp (rising number upTo)).1
  · exact (rising (number + 1) before).caughtUp taken

/-- Once nothing is held back any more, the file tells whether an attempt succeeded behind one that
failed. -/
theorem file_inOrder_iff {count : Nat} (noneHeld : (after accepts count).pending = []) :
    (after accepts count).file.Pairwise (· < ·) ↔
      ∀ number < count, Unbroken (attemptsOf accepts number) := by
  rw [← rising_iff, Rising, noneHeld, List.append_nil]

end Ledger

namespace FileSink

theorem Storable.earlier {entries : List Entry} (more : List Entry)
    (storable : Storable accepts (entries ++ more)) : Storable accepts entries := by
  induction more using List.reverseRecOn with
  | nil => rwa [List.append_nil] at storable
  | append_singleton more entry ih =>
      rw [← List.append_assoc] at storable
      exact ih (storable_append.mp storable).1

theorem entries_range (entries : List Entry) :
    (List.range entries.length).map (entries.getD · []) = entries := by
  apply List.ext_getElem
  · simp
  · intro number inside within
    simp [List.getElem?_eq_getElem within]

theorem afterAll_earlier {template : Template} {earlier emissions : List (Origin × Record)}
    (storable : Storable accepts (template.entries emissions)) (part : earlier <+: emissions) :
    afterAll accepts template earlier = ofLedger (template.entries emissions)
      (.after accepts (template.entries earlier).length) := by
  obtain ⟨later, rfl⟩ := part
  have parts : template.entries (earlier ++ later) = template.entries earlier ++ template.entries later :=
    List.filterMap_append
  rw [parts] at storable ⊢
  rw [afterAll_eq (storable.earlier _), ofLedger_append]

theorem attemptsFor_earlier {template : Template} {earlier emissions : List (Origin × Record)}
    {origin : Origin} {record : Record} {entry : Entry}
    (storable : Storable accepts (template.entries emissions))
    (part : earlier ++ [(origin, record)] <+: emissions)
    (made : template.entry origin record = .ok entry) :
    (afterAll accepts template earlier).attemptsFor accepts entry =
      (Ledger.attemptsOf accepts (template.entries earlier).length).map
        (Prod.map ((template.entries emissions).getD · []) id) := by
  have numbered : (template.entries emissions).getD (template.entries earlier).length [] = entry := by
    obtain ⟨later, rfl⟩ := part
    have parts : template.entries (earlier ++ [(origin, record)] ++ later) =
        template.entries (earlier ++ [(origin, record)]) ++ template.entries later :=
      List.filterMap_append
    rw [parts, Template.entries_of_ok made]
    simp
  rw [afterAll_earlier storable ((List.prefix_append _ _).trans part), Ledger.attemptsOf,
    ← attemptsFor_ofLedger, numbered]

/-- When the entries of records are in their order. The sinks on the way are those of the ledgers, and
so are the attempts. -/
structure Chronology (accepts : Nat → Bool) (template : Template)
    (emissions : List (Origin × Record)) : Prop where
  sinks : ∀ earlier, earlier <+: emissions → afterAll accepts template earlier =
    ofLedger (template.entries emissions) (.after accepts (template.entries earlier).length)
  attempts : ∀ earlier origin record entry, earlier ++ [(origin, record)] <+: emissions →
    template.entry origin record = .ok entry →
      (afterAll accepts template earlier).attemptsFor accepts entry =
        (Ledger.attemptsOf accepts (template.entries earlier).length).map
          (Prod.map ((template.entries emissions).getD · []) id)
  inOrder : (∀ number < (template.entries emissions).length,
      Unbroken (Ledger.attemptsOf accepts number)) →
    Ledger.Chronological accepts (template.entries emissions).length ∧
      (afterAll accepts template emissions).written ++ (afterAll accepts template emissions).held =
        template.entries emissions
  onlyThen : (afterAll accepts template emissions).held = [] →
    Ledger.Chronological accepts (template.entries emissions).length →
      ∀ number < (template.entries emissions).length, Unbroken (Ledger.attemptsOf accepts number)

theorem chronology_of_storable {template : Template} {emissions : List (Origin × Record)}
    (storable : Storable accepts (template.entries emissions)) :
    Chronology accepts template emissions where
  sinks := fun _ part => afterAll_earlier storable part
  attempts := fun _ _ _ _ part made => attemptsFor_earlier storable part made
  inOrder := by
    intro unbroken
    have rising := (Ledger.rising_iff _).mpr unbroken
    refine ⟨Ledger.chronological unbroken, ?_⟩
    rw [afterAll_eq storable, ofLedger, ← List.map_append, (Ledger.rising_iff_range _).mp rising,
      entries_range]
  onlyThen := by
    intro noneHeld chronological
    rw [afterAll_eq storable] at noneHeld
    have nonePending := List.map_eq_nil_iff.mp noneHeld
    exact (Ledger.file_inOrder_iff nonePending).mp (chronological.inOrder _ (Nat.le_refl _))

/-- The file is chronological as long as no attempt succeeds behind one that failed. By the standard
template, and by the one of the message alone, that is all it takes. -/
theorem chronology (accepts : Nat → Bool) (emissions : List (Origin × Record)) :
    (∀ template, Storable accepts (template.entries emissions) →
      Chronology accepts template emissions) ∧
    ∀ template ∈ [Template.standard, .ofText "%(message)s"],
      Chronology accepts template emissions := by
  refine ⟨fun template storable => chronology_of_storable storable, fun template member => ?_⟩
  have plain : template.Plain := by
    rcases List.mem_pair.mp member with rfl | rfl
    · exact Template.standard_plain
    · exact Template.message_plain
  exact chronology_of_storable (storable_of_plain plain accepts emissions)

/-- The first attempt fails, and with the next entry both are written. -/
theorem messages_chronology :
    Storable (· ∉ [0])
        ((Template.ofText "%(message)s").entries (ofMessages ["first", "second"])) ∧
      (Ledger.after (· ∉ [0]) 2).pending = [] ∧
      (∀ number < 2, (Ledger.attemptsOf (· ∉ [0]) number).map Prod.snd ∈ [[false], [true, true]]) ∧
      Chronology (· ∉ [0]) (.ofText "%(message)s") (ofMessages ["first", "second"]) := by
  have storable : Storable (· ∉ [0])
      ((Template.ofText "%(message)s").entries (ofMessages ["first", "second"])) := by
    show ∀ entry ∈ _, _
    decide
  exact ⟨storable, by decide, by decide, (chronology _ _).1 _ storable⟩

/-- The second entry gets ahead of the first, whose attempts failed twice. -/
theorem second_ahead :
    afterAll (· ∉ [0, 1]) (.ofText "%(message)s") (ofMessages ["first", "second"]) =
        ⟨[Text.points "second"], [Text.points "first"], 3⟩ ∧
      afterAll (· ∉ [0, 1]) (.ofText "%(message)s") (ofMessages ["first", "second", "third"]) =
        ⟨[Text.points "second", Text.points "first", Text.points "third"], [], 5⟩ ∧
      (1, true) ∈ Ledger.attemptsOf (· ∉ [0, 1]) 1 ∧ ¬ Ledger.Chronological (· ∉ [0, 1]) 3 := by
  refine ⟨by decide, by decide, by decide, fun chronological => ?_⟩
  exact absurd (chronological.inOrder 3 (Nat.le_refl _)) (by decide)

end FileSink

end Chip8.Journal
