import Chip8.Proofs.Machine.Standing

/-! A call puts the address behind it on the stack. As long as the stack is deeper than it was before
the call, that address and those below it stay where they are; when the stack is as deep again as
before, a return has taken the address, and the program goes on behind the call. -/

namespace Chip8

namespace Instruction

variable {core : Core} {callers : List UInt16} {address : UInt16}

/-- An instruction leaves the lower part of the stack as it is, unless it is a return and the lower
part is all there is. -/
theorem execute_lower (instruction : Instruction) (dialect : Dialect)
    (lower : callers ++ [address] <+: core.stack.toList) :
    callers ++ [address] <+: (instruction.execute dialect core).1.stack.toList ∨
      instruction = .ret ∧ (instruction.execute dialect core).2 = none ∧
        (instruction.execute dialect core).1.registers.pc = address.toNat ∧
        (instruction.execute dialect core).1.stack.toList = callers := by
  rw [execute_stack, execute_counter]
  cases instruction with
  | ret =>
      simp only [stackAfter, counterAfter, execute, Core.ret]
      cases returned : core.stack.ret with
      | error fault => exact .inl lower
      | ok popped =>
          obtain ⟨top, stack⟩ := popped
          rw [CallStack.toList_ret returned] at lower
          rcases List.prefix_concat_iff.mp lower with all | below
          · obtain ⟨rest, last⟩ := List.append_inj' all rfl
            cases last
            exact .inr ⟨trivial, rfl, rfl, rest.symm⟩
          · exact .inl below
  | call target =>
      simp only [stackAfter]
      cases called : core.stack.call core.registers.pc with
      | error fault => exact .inl lower
      | ok stack =>
          rw [CallStack.toList_call called]
          exact .inl (lower.trans (List.prefix_append _ _))
  | _ => exact .inl lower

end Instruction

/-- Commands in the course of which there is at most one cycle, and which do not begin anew. -/
def Command.Single : Command → Prop
  | .load _ | .reset | .frame => False
  | _ => True

namespace Machine

variable {machine : Machine} {outcome : Outcome Machine Unit} {callers : List UInt16}
  {address : UInt16} {command : Command}

/-- A return was executed: the program goes on at `address`, and `callers` are left on the stack. -/
structure Returned (callers : List UInt16) (address : UInt16) (machine : Machine)
    (outcome : Outcome Machine Unit) : Prop where
  fetched : machine.core.Fetches Instruction.ret.word
  succeeded : outcome.result = .ok ()
  counter : outcome.state.core.registers.pc = address.toNat
  stack : outcome.state.core.stack.toList = callers

theorem Cycle.lower (cycle : machine.Cycle outcome)
    (lower : callers ++ [address] <+: machine.core.stack.toList) :
    callers ++ [address] <+: outcome.state.core.stack.toList ∨
      machine.Returned callers address outcome := by
  cases cycle with
  | idle => exact .inl lower
  | unread => exact .inl lower
  | unknown => exact .inl lower
  | @failed op instruction core failure running read known executed =>
      have before : callers ++ [address] <+: (machine.core.fetched op).stack.toList := lower
      have after := instruction.execute_lower machine.dialect before
      rw [executed] at after
      rcases after with kept | ⟨_, succeeded, _⟩
      · exact .inl kept
      · cases succeeded
  | @done op instruction core running read known executed =>
      have before : callers ++ [address] <+: (machine.core.fetched op).stack.toList := lower
      have after := instruction.execute_lower machine.dialect before
      rw [executed] at after
      have core := machine.completed_core core (instruction.listing machine.core.registers.pc op)
      rcases after with kept | ⟨rfl, _, counter, stack⟩
      · refine .inl ?_
        rw [core]
        exact kept
      · refine .inr ⟨Core.fetches_iff.mpr ⟨op, read, ?_⟩, rfl, ?_, ?_⟩
        · exact Instruction.decode?_eq_some_iff.mp known
        · rw [core]
          exact counter
        · rw [core]
          exact stack

theorem obey_lower (regular : machine.Regular) (single : command.Single)
    (lower : callers ++ [address] <+: machine.core.stack.toList) :
    callers ++ [address] <+: (machine.obey command).state.core.stack.toList ∨
      command = .step ∧ machine.Returned callers address (machine.obey command) := by
  cases command with
  | load rom => cases single
  | reset => cases single
  | frame => cases single
  | step => exact ((step_cycle regular.passive).lower lower).imp_right fun returned => ⟨rfl, returned⟩
  | tick =>
      rw [obey, tick_eq regular.passive]
      exact .inl lower
  | input key pressed =>
      obtain ⟨_, keypad, input⟩ := machine.input_leaves key pressed
      rw [obey, input]
      exact .inl lower
  | _ => exact .inl lower

/-- As long as the stack is deeper than `callers`, their addresses and the next one stay. -/
theorem run_lower (regular : machine.Regular) {commands : List Command}
    (single : ∀ command ∈ commands, command.Single)
    (deep : ∀ k, callers.length < (machine.run (commands.take k)).core.stack.depth)
    (lower : callers ++ [address] <+: machine.core.stack.toList) :
    callers ++ [address] <+: (machine.run commands).core.stack.toList := by
  induction commands generalizing machine with
  | nil => exact lower
  | cons command rest ih =>
      have first := obey_lower regular (single command (by simp)) lower
      rcases first with kept | ⟨_, returned⟩
      · refine ih (regular_kept.obey regular regular command)
          (fun other member => single other (by simp [member])) (fun k => ?_) kept
        exact deep (k + 1)
      · -- A return would have left the stack too shallow.
        have shallow := deep 1
        have left := congrArg List.length returned.stack
        rw [CallStack.length_toList] at left
        simp only [List.take_succ_cons, List.take_zero, run] at shallow
        omega

theorem step_called (passive : machine.Passive) (running : machine.core.registers.halted = false)
    {target : Address} (fetched : machine.core.Fetches (Instruction.call target).word)
    (called : machine.step.result = .ok ()) :
    ∃ address : UInt16, (address.toNat : Int) = machine.core.registers.pc + 2 ∧
      machine.step.state.core.stack.toList = machine.core.stack.toList ++ [address] := by
  obtain ⟨op, core, executed, after⟩ := step_of_fetches passive running fetched called
  have inside := fetched.1
  have past : (machine.core.fetched op).registers.pc = machine.core.registers.pc + 2 := rfl
  have pushed := Numeral.lowWord_toNat (machine.core.fetched op).registers.pc
  rw [after]
  change (machine.core.fetched op).call target = (core, none) at executed
  unfold Core.call at executed
  split at executed
  · rename_i stack done
    cases executed
    exact ⟨_, by omega, CallStack.toList_call done⟩
  · cases executed

/-- A call that succeeds is matched by the return that first brings the stack back to the depth it
had before the call: the program goes on behind the call with the stack as it was. -/
theorem Reached.call_returns (reached : machine.Reached)
    (running : machine.core.registers.halted = false) {target : Address}
    (fetched : machine.core.Fetches (Instruction.call target).word)
    (called : machine.step.result = .ok ()) {between : List Command} {last : Command}
    (single : ∀ command ∈ between ++ [last], command.Single)
    (deep : ∀ k, machine.core.stack.depth <
      (machine.step.state.run (between.take k)).core.stack.depth)
    (back : (machine.step.state.run (between ++ [last])).core.stack.depth ≤
      machine.core.stack.depth) :
    last = .step ∧ (machine.step.state.run between).core.Fetches Instruction.ret.word ∧
      (machine.step.state.run between).step.result = .ok () ∧
      (machine.step.state.run (between ++ [last])).core.registers.pc =
        machine.core.registers.pc + 2 ∧
      (machine.step.state.run (between ++ [last])).core.stack.toList =
        machine.core.stack.toList := by
  have regular := reached.regular.step
  obtain ⟨address, behind, pushed⟩ := step_called reached.regular.passive running fetched called
  have depth := machine.core.stack.length_toList
  have lower : machine.core.stack.toList ++ [address] <+:
      (machine.step.state.run between).core.stack.toList := by
    refine run_lower regular (fun command member => single command (by simp [member])) ?_ ?_
    · rw [depth]
      exact deep
    · exact pushed ▸ List.prefix_rfl
  rw [run_append, Machine.run, Machine.run] at back ⊢
  rcases obey_lower (regular.run between) (single last (by simp)) lower with kept | ⟨rfl, returned⟩
  · -- The stack would still be too deep.
    have still := kept.length_le
    rw [CallStack.length_toList, List.length_append, List.length_singleton] at still
    omega
  · exact ⟨rfl, returned.fetched, returned.succeeded, returned.counter.trans behind, returned.stack⟩

/-- A call at 0x200 of a subroutine at 0x204, which calls another one at 0x208. -/
def nestedCalls : { rom : Rom // rom.Accepted } :=
  ⟨⟨"", #[0x22, 0x04, 0x00, 0xE0, 0x22, 0x08, 0x00, 0xEE, 0x00, 0xEE]⟩,
    Rom.accepted_of_size (by decide) (by decide)⟩

def innerCall : List Command := [.step, .tick, .input 16 true, .step]

theorem innerCall_single : ∀ command ∈ innerCall ++ [.step], command.Single := by
  intro command member
  simp [innerCall] at member
  rcases member with rfl | rfl | rfl | rfl | rfl <;> trivial

theorem Standing.nested (start : Standing nestedCalls.val.data 0 [] machine) :
    machine.step.result = .ok () ∧
      (∀ k, 0 < (machine.step.state.run (innerCall.take k)).core.stack.depth) ∧
      (machine.step.state.run (innerCall ++ [.step])).core.stack.depth = 0 := by
  obtain ⟨called, outer⟩ := start.call 0x204 4 (by decide) (by decide) (by decide) rfl
  obtain ⟨_, inner⟩ := outer.call 0x208 8 (by decide) (by decide) (by decide) rfl
  have refused := inner.tick.input 16 true
  obtain ⟨_, back⟩ := Standing.ret [514] 6 refused (by decide) (by decide)
  obtain ⟨_, home⟩ := Standing.ret [] 2 back (by decide) (by decide)
  have cycle : machine.step = machine.obey .step := rfl
  rw [cycle]
  refine ⟨called, ?_, ?_⟩
  · intro k
    rcases k with _ | _ | _ | _ | k
    all_goals simp only [innerCall, List.take_succ_cons, List.take_zero, List.take_nil, run]
    · rw [outer.depth]
      decide
    · rw [inner.depth]
      decide
    · rw [inner.tick.depth]
      decide
    · rw [refused.depth]
      decide
    · rw [back.depth]
      decide
  · simp only [innerCall, List.cons_append, List.nil_append, run]
    exact home.depth

theorem nestedCalls_returns :
    (holding nestedCalls).step.result = .ok () ∧
      ((holding nestedCalls).step.state.run (innerCall ++ [.step])).core.registers.pc = 0x202 ∧
      ((holding nestedCalls).step.state.run (innerCall ++ [.step])).core.stack.toList = [] := by
  have start := holding_standing nestedCalls
  have fetched : (holding nestedCalls).core.Fetches (Instruction.call 0x204).word :=
    Core.fetches_holding start.memory (by decide) start.counter
  obtain ⟨called, deep, shallow⟩ := start.nested
  have depth := start.depth
  rw [List.length_nil] at depth
  rw [← depth] at deep shallow
  obtain ⟨_, _, _, counter, stack⟩ := start.reached.call_returns start.running fetched called
    innerCall_single deep (Nat.le_of_eq shallow)
  rw [start.counter] at counter
  rw [holding_stack] at stack
  exact ⟨called, counter, stack⟩

end Machine

end Chip8
