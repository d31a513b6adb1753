import Chip8.Machine.Event

/-! An operation works on a state, leaves effects on its way, and ends with an answer or a failure. A
failure ends it at once and keeps the state and the effects as they are by then. -/

namespace Chip8

/-- How an operation ended, the state it left, and its effects in order. -/
structure Outcome (σ α : Type) where
  result : Except Failure α
  state : σ
  effects : List Effect

def Operation (σ α : Type) := σ → Outcome σ α

namespace Operation

variable {σ α β γ : Type}

protected def pure (answer : α) : Operation σ α := fun state => ⟨.ok answer, state, []⟩

/-- Goes on with the answer of a first operation, unless that failed. -/
protected def bind (first : Operation σ α) (next : α → Operation σ β) : Operation σ β := fun state =>
  match first state with
  | ⟨.ok answer, middle, before⟩ =>
      let outcome := next answer middle
      { outcome with effects := before ++ outcome.effects }
  | ⟨.error failure, middle, before⟩ => ⟨.error failure, middle, before⟩

instance : Monad (Operation σ) where
  pure := Operation.pure
  bind := Operation.bind

protected theorem id_map (work : Operation σ α) : id <$> work = work := by
  funext state
  change Operation.bind work (fun answer => Operation.pure (id answer)) state = work state
  unfold Operation.bind
  split <;> simp_all [Operation.pure]

protected theorem pure_bind (answer : α) (next : α → Operation σ β) :
    pure answer >>= next = next answer := by
  funext state
  change Operation.bind (Operation.pure answer) next state = next answer state
  simp [Operation.bind, Operation.pure]

protected theorem bind_assoc (first : Operation σ α) (second : α → Operation σ β)
    (third : β → Operation σ γ) :
    first >>= second >>= third = first >>= fun answer => second answer >>= third := by
  funext state
  change Operation.bind (Operation.bind first second) third state =
    Operation.bind first (fun answer => Operation.bind (second answer) third) state
  unfold Operation.bind
  rcases first state with ⟨_ | answer, middle, before⟩
  · rfl
  · dsimp only
    rcases second answer middle with ⟨_ | _, _, _⟩ <;> simp

instance : LawfulMonad (Operation σ) :=
  LawfulMonad.mk' _ Operation.id_map Operation.pure_bind Operation.bind_assoc

theorem bind_of_ok {first : Operation σ α} {next : α → Operation σ β} {state middle final : σ}
    {answer : α} {result : Except Failure β} {before after : List Effect}
    (done : first state = ⟨.ok answer, middle, before⟩)
    (rest : next answer middle = ⟨result, final, after⟩) :
    (first >>= next) state = ⟨result, final, before ++ after⟩ := by
  change Operation.bind first next state = _
  simp [Operation.bind, done, rest]

theorem bind_of_silent {first : Operation σ α} {next : α → Operation σ β} {state middle : σ}
    {answer : α} (done : first state = ⟨.ok answer, middle, []⟩) :
    (first >>= next) state = next answer middle := by
  change Operation.bind first next state = _
  simp [Operation.bind, done]

theorem bind_of_error {first : Operation σ α} {next : α → Operation σ β} {state middle : σ}
    {failure : Failure} {before : List Effect}
    (failed : first state = ⟨.error failure, middle, before⟩) :
    (first >>= next) state = ⟨.error failure, middle, before⟩ := by
  change Operation.bind first next state = _
  simp [Operation.bind, failed]

def get : Operation σ σ := fun state => ⟨.ok state, state, []⟩

def modify (change : σ → σ) : Operation σ Unit := fun state => ⟨.ok (), change state, []⟩

def fail (failure : Failure) : Operation σ α := fun state => ⟨.error failure, state, []⟩

def leave (effect : Effect) : Operation σ Unit := fun state => ⟨.ok (), state, [effect]⟩

@[simp] theorem get_at (state : σ) : (get : Operation σ σ) state = ⟨.ok state, state, []⟩ := rfl

@[simp] theorem modify_at (change : σ → σ) (state : σ) :
    modify change state = ⟨.ok (), change state, []⟩ := rfl

@[simp] theorem leave_at (effect : Effect) (state : σ) :
    leave effect state = ⟨.ok (), state, [effect]⟩ := rfl

end Operation

end Chip8
