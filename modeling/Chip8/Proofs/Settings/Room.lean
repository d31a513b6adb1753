import Chip8.Settings.Toml.Document

namespace Chip8.Settings.Toml

variable {α β : Type}

/-- What is found with more room is what is found with less, unless the less was not enough. -/
def Extends (less more : Except Malformed α) : Prop := less = .error .tooDeep ∨ more = less

namespace Extends

theorem refl (found : Except Malformed α) : Extends found found := .inr rfl

theorem bind {less more : Except Malformed α} {nextLess nextMore : α → Except Malformed β}
    (first : Extends less more) (next : ∀ value, Extends (nextLess value) (nextMore value)) :
    Extends (less >>= nextLess) (more >>= nextMore) := by
  rcases first with tooDeep | same
  · exact .inl (by rw [tooDeep]; rfl)
  · rw [same]
    cases less with
    | error reason => exact refl _
    | ok value => exact next value

theorem descend {levels less more : Nat} (le : less ≤ more) {next : Nat → Except Malformed β}
    (further : ∀ ⦃few many⦄, few ≤ many → Extends (next few) (next many)) :
    Extends (descend levels less >>= next) (descend levels more >>= next) := by
  unfold Toml.descend
  by_cases enough : levels ≤ less
  · rw [if_pos enough, if_pos (Nat.le_trans enough le)]
    exact further (Nat.sub_le_sub_right le levels)
  · rw [if_neg enough]
    exact .inl rfl

end Extends

/-- Values of at most some length are found alike with more room. -/
structure Roomy (limit : Nat) : Prop where
  value : ∀ ⦃less more : Nat⦄, less ≤ more → ∀ text,
    Extends (value limit less text) (value limit more text)
  items : ∀ ⦃less more : Nat⦄, less ≤ more → ∀ text,
    Extends (items limit less text) (items limit more text)
  pairs : ∀ ⦃less more : Nat⦄, less ≤ more → ∀ entries text,
    Extends (pairs limit less entries text) (pairs limit more entries text)

theorem Roomy.succ {limit : Nat} (roomy : Roomy limit) : Roomy (limit + 1) where
  value less more le text := by
    unfold Toml.value
    split
    case h_7 =>
      refine .descend le fun few many le => .bind (.refl _) fun start => ?_
      exact .bind (roomy.items le start) fun _ => .refl _
    case h_8 =>
      dsimp only
      split
      · exact .refl _
      · exact .descend le fun few many le => .bind (roomy.pairs le _ _) fun _ => .refl _
    all_goals exact .refl _
  items less more le text := by
    unfold Toml.items
    split
    · exact .refl _
    · refine .bind (roomy.value le _) fun (item, after) => .bind (.refl _) fun next => ?_
      split
      · exact .refl _
      · exact .bind (.refl _) fun rest => .bind (roomy.items le rest) fun _ => .refl _
      · exact .refl _
  pairs less more le entries text := by
    unfold Toml.pairs
    refine .bind (.refl _) fun (name, after) => .bind (.refl _) fun start => ?_
    refine .bind (roomy.value le _) fun (value, after) => .bind (.refl _) fun next => ?_
    split
    · exact .refl _
    · exact roomy.pairs le _ _
    · exact .refl _

theorem roomy (limit : Nat) : Roomy limit := by
  induction limit with
  | zero => exact ⟨fun _ _ _ _ => .refl _, fun _ _ _ _ => .refl _, fun _ _ _ _ _ => .refl _⟩
  | succ limit ih => exact ih.succ

namespace Draft

variable {less more : Nat}

end Draft

end Chip8.Settings.Toml
