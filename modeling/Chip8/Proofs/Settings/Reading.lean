import Chip8.Proofs.Settings.Drafts
import Chip8.Settings.Toml.Document

namespace Chip8.Settings.Toml

theorem inGrammar_eq_ok {α : Type} {found : Option α} {value : α} :
    inGrammar found = .ok value ↔ found = some value := by
  cases found <;> simp [inGrammar]

section Number

variable {text after : List Char} {found : Value}

theorem markedNumber?_clear (read : markedNumber? text = some (found, after)) : found.Clear := by
  unfold markedNumber? at read
  split at read
  case h_4 => cases read
  all_goals
    obtain ⟨_, _, made⟩ := Option.map_eq_some_iff.mp read
    cases made
    rintro _ ⟨⟩

theorem specialNumber?_clear (read : specialNumber? text = some (found, after)) : found.Clear := by
  unfold specialNumber? at read
  split at read <;> cases read <;> rintro _ ⟨⟩

theorem decimalNumber_clear (read : decimalNumber text = .ok (found, after)) : found.Clear := by
  obtain ⟨_, _, rest⟩ := bind_eq_ok.mp read
  dsimp only at rest
  split at rest
  · split at rest <;> cases rest
    rintro _ ⟨⟩
  · cases rest
    rintro _ ⟨⟩

theorem number_clear (read : number text = .ok (found, after)) : found.Clear := by
  unfold number at read
  split at read
  · split at read <;> cases read
    rintro _ ⟨⟩
  · split at read
    · cases read
      rintro _ ⟨⟩
    · split at read
      · rename_i special
        cases read
        cases marked : markedNumber? text with
        | some read =>
            rw [marked] at special
            cases special
            exact markedNumber?_clear marked
        | none =>
            rw [marked] at special
            exact specialNumber?_clear special
      · exact decimalNumber_clear read

end Number

/-- Values of at most some length are clear. -/
structure ReadsClear (limit : Nat) : Prop where
  value : ∀ ⦃room text found after⦄, value limit room text = .ok (found, after) → found.Clear
  pairs : ∀ ⦃room entries text next after⦄, Orderly entries →
    pairs limit room entries text = .ok (next, after) → Orderly next

theorem ReadsClear.succ {limit : Nat} (reads : ReadsClear limit) : ReadsClear (limit + 1) where
  value room text found after read := by
    unfold Toml.value at read
    split at read
    case h_8 =>
      dsimp only at read
      split at read
      · cases read
        exact .clear .nil
      · obtain ⟨within, _, paired⟩ := bind_eq_ok.mp read
        obtain ⟨⟨entries, _⟩, listed, made⟩ := bind_eq_ok.mp paired
        cases made
        exact (reads.pairs orderly_nil listed).clear
    case h_5 | h_6 =>
      cases read
      rintro _ ⟨⟩
    case h_7 =>
      obtain ⟨within, _, listed⟩ := bind_eq_ok.mp read
      obtain ⟨start, _, filled⟩ := bind_eq_ok.mp listed
      obtain ⟨⟨items, _⟩, _, made⟩ := bind_eq_ok.mp filled
      cases made
      rintro _ ⟨⟩
    case h_9 => exact number_clear read
    all_goals
      obtain ⟨⟨body, _⟩, _, made⟩ := bind_eq_ok.mp read
      cases made
      rintro _ ⟨⟩
  pairs room entries text next after orderly read := by
    unfold Toml.pairs at read
    obtain ⟨⟨name, _⟩, _, named⟩ := bind_eq_ok.mp read
    obtain ⟨_, _, started⟩ := bind_eq_ok.mp named
    obtain ⟨⟨value, _⟩, valued, assigns⟩ := bind_eq_ok.mp started
    obtain ⟨more, assigned, rest⟩ := bind_eq_ok.mp assigns
    have further : Orderly more :=
      assign_keepsOrder (reads.value valued) 0 name orderly (inGrammar_eq_ok.mp assigned)
    split at rest
    · cases rest
      exact further
    · exact reads.pairs further rest
    · cases rest

theorem readsClear (limit : Nat) : ReadsClear limit := by
  induction limit with
  | zero => exact ⟨fun _ _ _ _ read => (nomatch read), fun _ _ _ _ _ _ read => (nomatch read)⟩
  | succ limit ih => exact ih.succ

namespace Draft

variable {room : Nat} {draft next : Draft} {text after : List Char}

theorem openSection?_orderly {path : List String}
    {change : Nat → String → Named Node → Option (Named Node)}
    (keeps : ∀ current name, KeepsOrder (change current name)) (orderly : Orderly draft.root)
    (opened : draft.openSection? path change = some next) : Orderly next.root := by
  obtain ⟨last, _, rest⟩ := Option.bind_eq_some_iff.mp opened
  obtain ⟨root, changed, made⟩ := Option.bind_eq_some_iff.mp rest
  cases made
  exact onTable_keepsOrder (keeps _ last) _ orderly changed

theorem statement_orderly (orderly : Orderly draft.root)
    (stated : draft.statement room text = .ok (next, after)) : Orderly next.root := by
  unfold statement at stated
  split at stated
  · obtain ⟨⟨path, _⟩, _, rest⟩ := Option.bind_eq_some_iff.mp (inGrammar_eq_ok.mp stated)
    obtain ⟨opened, opens, ended⟩ := Option.bind_eq_some_iff.mp rest
    obtain ⟨_, _, closed⟩ := Option.bind_eq_some_iff.mp ended
    obtain ⟨_, _, made⟩ := Option.bind_eq_some_iff.mp closed
    cases made
    exact openSection?_orderly (fun _ => append_keepsOrder) orderly opens
  · obtain ⟨⟨path, _⟩, _, rest⟩ := Option.bind_eq_some_iff.mp (inGrammar_eq_ok.mp stated)
    obtain ⟨opened, opens, ended⟩ := Option.bind_eq_some_iff.mp rest
    obtain ⟨_, _, made⟩ := Option.bind_eq_some_iff.mp ended
    cases made
    exact openSection?_orderly declare_keepsOrder orderly opens
  · obtain ⟨⟨name, _⟩, _, named⟩ := bind_eq_ok.mp stated
    obtain ⟨_, _, started⟩ := bind_eq_ok.mp named
    obtain ⟨⟨value, _⟩, valued, assigns⟩ := bind_eq_ok.mp started
    obtain ⟨root, assigned, made⟩ := bind_eq_ok.mp assigns
    cases made
    have clear : value.Clear := (readsClear _).value valued
    exact onTable_keepsOrder (assign_keepsOrder clear _ name) _ orderly (inGrammar_eq_ok.mp assigned)

/-- By induction on the number of lines that may be left. -/
theorem statements_orderly {limit : Nat} (orderly : Orderly draft.root)
    (stated : draft.statements room limit text = .ok next) : Orderly next.root := by
  induction limit generalizing draft text with
  | zero => cases stated
  | succ limit ih =>
      unfold statements at stated
      dsimp only at stated
      split at stated <;> obtain ⟨⟨after, rest⟩, line, lines⟩ := bind_eq_ok.mp stated
      all_goals
        -- A line without a statement leaves the draft as it is.
        have still : Orderly after.root := by
          first
            | exact statement_orderly orderly line
            | cases line
              exact orderly
        obtain ⟨left, _, more⟩ := bind_eq_ok.mp lines
        split at more
        · cases more
          exact still
        · exact ih still more
        · cases more

end Draft

/-- No name comes twice in a table that was read from a document, or in a table within it. -/
theorem unambiguous_of_readWithin {room : Nat} {document : String} {fields : Fields}
    (found : readWithin room document = .ok fields) : Unambiguous fields := by
  obtain ⟨draft, stated, made⟩ := bind_eq_ok.mp found
  cases made
  exact Draft.statements_orderly orderly_nil stated

end Chip8.Settings.Toml
