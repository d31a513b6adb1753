import Chip8.Hardware.CallStack
import Mathlib.Data.List.Basic

/-! # The call stack as a list

A slot that is not in use holds zero. Calls and returns keep it so, and a stack is therefore
determined by the addresses on it. Whatever a stack is asked, it answers as a list of those addresses
does that takes sixteen at most: `acts_as_list`.
-/

namespace Chip8

namespace CallStack

variable {stack after : CallStack}

/-- Every slot from the depth on is cleared. -/
def Tidy (stack : CallStack) : Prop :=
  ∀ k (bound : k < 16), stack.depth ≤ k → stack.slots[k] = 0

theorem empty_tidy : empty.Tidy := by
  intro k bound _
  exact Vector.getElem_replicate bound

theorem call_tidy (tidy : stack.Tidy) {address : Int} (called : stack.call address = .ok after) :
    after.Tidy := by
  unfold call at called
  split at called
  · rename_i room
    cases called
    intro k bound free
    have beyond : stack.depth + 1 ≤ k := free
    have apart : stack.depth ≠ k := by omega
    have kept := tidy k bound (by omega)
    rw [← kept]
    exact Vector.getElem_set_ne room bound apart
  · cases called

theorem ret_tidy (tidy : stack.Tidy) {address : UInt16}
    (returned : stack.ret = .ok (address, after)) : after.Tidy := by
  unfold ret at returned
  split at returned
  · rename_i live
    cases returned
    have depth_le := stack.depth_le
    intro k bound free
    have beyond : stack.depth - 1 ≤ k := free
    by_cases freed : stack.depth - 1 = k
    · subst freed
      exact Vector.getElem_set_self bound
    · have kept := tidy k bound (by omega)
      rw [← kept]
      exact Vector.getElem_set_ne (by omega) bound freed
  · cases returned

theorem Tidy.slots (tidy : stack.Tidy) :
    stack.slots.toList = stack.toList ++ List.replicate (16 - stack.depth) 0 := by
  have free : stack.slots.toList.drop stack.depth = List.replicate (16 - stack.depth) 0 := by
    apply List.eq_replicate_iff.mpr
    constructor
    · simp
    · intro slot member
      obtain ⟨k, bound, found⟩ := List.mem_iff_getElem.mp member
      simp only [List.length_drop, Vector.length_toList] at bound
      rw [← found, List.getElem_drop, Vector.getElem_toList]
      exact tidy _ (by omega) (by omega)
  rw [toList, ← free, List.take_append_drop]

theorem Tidy.ext {other : CallStack} (tidy : stack.Tidy) (otherTidy : other.Tidy)
    (same : stack.toList = other.toList) : stack = other := by
  have depth : stack.depth = other.depth := by
    rw [← length_toList, ← length_toList, same]
  have slots : stack.slots = other.slots := by
    apply Vector.toList_inj.mp
    rw [tidy.slots, otherTidy.slots, same, depth]
  cases stack
  cases other
  cases depth
  cases slots
  rfl

theorem peek_eq (stack : CallStack) :
    stack.peek = match stack.toList.getLast? with
      | some address => .ok address
      | none => .error .emptyStack := by
  have length := stack.length_toList
  unfold peek
  split
  · rename_i live
    have bound : stack.depth - 1 < stack.toList.length := by omega
    have last : stack.toList.getLast? = some stack.toList[stack.depth - 1] := by
      rw [List.getLast?_eq_getElem?, length, List.getElem?_eq_getElem bound]
    rw [last]
    simp [toList]
  · rename_i empty
    have none : stack.toList = [] := List.eq_nil_of_length_eq_zero (by omega)
    rw [none]
    rfl

theorem peek_eq_ret (stack : CallStack) : stack.peek = stack.ret.map Prod.fst := by
  unfold peek ret
  split <;> rfl

theorem Tidy.ret_of_call (tidy : stack.Tidy) {address : Int}
    (called : stack.call address = .ok after) :
    after.ret = .ok (Numeral.lowWord address, stack) := by
  have pushed := toList_call called
  cases returned : after.ret with
  | error fault =>
      have depth := after.length_toList
      simp only [pushed, List.length_append, List.length_singleton] at depth
      have live : 0 < after.depth := by omega
      simp [ret, live] at returned
  | ok popped =>
      obtain ⟨top, below⟩ := popped
      have split := toList_ret returned
      rw [pushed] at split
      obtain ⟨addresses, last⟩ := List.append_inj' split rfl
      cases last
      rw [tidy.ext (ret_tidy (call_tidy tidy called) returned) addresses]

inductive Request where
  | call (address : Int)
  | ret
  | peek
  | snapshot
  | length
  | reset

inductive Answer where
  | done
  | address (value : Nat)
  | snapshot (values : List Nat)
  | length (count : Nat)
  deriving DecidableEq

/-- The answer of a stack and the stack after it. A request that is refused changes nothing. -/
def answer (stack : CallStack) : Request → Except Fault Answer × CallStack
  | .call address => match stack.call address with
      | .ok after => (.ok .done, after)
      | .error fault => (.error fault, stack)
  | .ret => match stack.ret with
      | .ok (address, after) => (.ok (.address address.toNat), after)
      | .error fault => (.error fault, stack)
  | .peek => (stack.peek.map fun address => .address address.toNat, stack)
  | .snapshot => (.ok (.snapshot (stack.toList.map UInt16.toNat)), stack)
  | .length => (.ok (.length stack.depth), stack)
  | .reset => (.ok .done, empty)

/-- The answer of a list that takes sixteen values, and the list after it. -/
def listAnswer (values : List Nat) : Request → Except Fault Answer × List Nat
  | .call address =>
      if values.length < 16 then (.ok .done, values ++ [(address % 65536).toNat])
      else (.error (.stackOverflow 16), values)
  | .ret => match values.getLast? with
      | some value => (.ok (.address value), values.dropLast)
      | none => (.error .emptyStack, values)
  | .peek => match values.getLast? with
      | some value => (.ok (.address value), values)
      | none => (.error .emptyStack, values)
  | .snapshot => (.ok (.snapshot values), values)
  | .length => (.ok (.length values.length), values)
  | .reset => (.ok .done, [])

section Converse

variable {σ : Type} (ask : σ → Request → Except Fault Answer × σ)

def answers (state : σ) : List Request → List (Except Fault Answer)
  | [] => []
  | request :: rest => (ask state request).1 :: answers (ask state request).2 rest

def afterAll (state : σ) (requests : List Request) : σ :=
  requests.foldl (fun state request => (ask state request).2) state

end Converse

/-- The stack holds these addresses, and nothing is left of others. -/
structure Represents (stack : CallStack) (values : List Nat) : Prop where
  tidy : stack.Tidy
  values : stack.toList.map UInt16.toNat = values

/-- Both have given the same answer, and go on with the same addresses. -/
structure Agree (ofStack : Except Fault Answer × CallStack)
    (ofList : Except Fault Answer × List Nat) : Prop where
  answer : ofStack.1 = ofList.1
  state : ofStack.2.Represents ofList.2

variable {values : List Nat}

theorem Represents.depth (shown : stack.Represents values) : stack.depth = values.length := by
  rw [← shown.values, List.length_map, length_toList]

theorem Represents.last (shown : stack.Represents values) :
    values.getLast? = stack.toList.getLast?.map UInt16.toNat := by
  rw [← shown.values, List.getLast?_map]

theorem Represents.call (shown : stack.Represents values) (address : Int) :
    Agree (stack.answer (.call address)) (listAnswer values (.call address)) := by
  have depth := shown.depth
  have depth_le := stack.depth_le
  cases called : stack.call address with
  | ok after =>
      have pushed := toList_call called
      have room : values.length < 16 := by
        have length := after.length_toList
        have after_le := after.depth_le
        rw [pushed, List.length_append, length_toList, List.length_singleton] at length
        omega
      simp only [answer, listAnswer, called, if_pos room]
      refine ⟨rfl, call_tidy shown.tidy called, ?_⟩
      change after.toList.map UInt16.toNat = _
      rw [pushed, List.map_append, shown.values, List.map_singleton, Numeral.lowWord_toNat]
  | error fault =>
      by_cases room : stack.depth < 16
      · simp [CallStack.call, room] at called
      · have full : stack.depth = 16 := by omega
        have noRoom : ¬values.length < 16 := by omega
        have refused : stack.call address = .error (.stackOverflow 16) := by
          simp [CallStack.call, full]
        simp only [answer, listAnswer, refused, if_neg noRoom]
        exact ⟨rfl, shown⟩

theorem Represents.ret (shown : stack.Represents values) :
    Agree (stack.answer .ret) (listAnswer values .ret) := by
  cases returned : stack.ret with
  | ok popped =>
      obtain ⟨top, below⟩ := popped
      have above := toList_ret returned
      have held : values = below.toList.map UInt16.toNat ++ [top.toNat] := by
        rw [← shown.values, above, List.map_append, List.map_singleton]
      simp only [answer, listAnswer, returned, held, List.getLast?_concat, List.dropLast_concat]
      exact ⟨rfl, ret_tidy shown.tidy returned, rfl⟩
  | error fault =>
      have peeked := peek_eq_ret stack
      rw [peek_eq, returned] at peeked
      cases last : stack.toList.getLast? with
      | some top => simp [last, Except.map] at peeked
      | none =>
          rw [last] at peeked
          cases peeked
          simp only [answer, listAnswer, returned, shown.last, last, Option.map_none]
          exact ⟨rfl, shown⟩

theorem Represents.peek (shown : stack.Represents values) :
    Agree (stack.answer .peek) (listAnswer values .peek) := by
  cases last : stack.toList.getLast? with
  | some top =>
      simp only [answer, listAnswer, peek_eq, shown.last, last, Option.map_some]
      exact ⟨rfl, shown⟩
  | none =>
      simp only [answer, listAnswer, peek_eq, shown.last, last, Option.map_none]
      exact ⟨rfl, shown⟩

theorem Represents.answer (shown : stack.Represents values) (request : Request) :
    Agree (stack.answer request) (listAnswer values request) := by
  cases request with
  | call address => exact shown.call address
  | ret => exact shown.ret
  | peek => exact shown.peek
  | snapshot =>
      simp only [CallStack.answer, listAnswer, shown.values]
      exact ⟨rfl, shown⟩
  | length =>
      simp only [CallStack.answer, listAnswer, shown.depth]
      exact ⟨rfl, shown⟩
  | reset => exact ⟨rfl, empty_tidy, rfl⟩

theorem Represents.answers (shown : stack.Represents values) (requests : List Request) :
    CallStack.answers CallStack.answer stack requests =
        CallStack.answers listAnswer values requests ∧
      (afterAll CallStack.answer stack requests).Represents (afterAll listAnswer values requests) := by
  induction requests generalizing stack values with
  | nil => exact ⟨rfl, shown⟩
  | cons request rest ih =>
      obtain ⟨same, next⟩ := shown.answer request
      obtain ⟨others, last⟩ := ih next
      exact ⟨by rw [CallStack.answers, CallStack.answers, same, others], last⟩

def stackAfter (requests : List Request) : CallStack := afterAll answer empty requests

def listAfter (requests : List Request) : List Nat := afterAll listAnswer [] requests

/-- A stack that was empty has answered requests as the list did, and holds what the list holds. -/
structure ActsAsList (requests : List Request) : Prop where
  answers : answers answer empty requests = answers listAnswer [] requests
  snapshot : (stackAfter requests).toList.map UInt16.toNat = listAfter requests
  within : (listAfter requests).length ≤ 16 ∧ ∀ value ∈ listAfter requests, value ≤ 0xFFFF
  slots : (stackAfter requests).slots.toList =
    (stackAfter requests).toList ++ List.replicate (16 - (stackAfter requests).depth) 0
  /-- Stacks with the same addresses are the same. -/
  determined : ∀ others, (stackAfter others).toList = (stackAfter requests).toList →
    stackAfter others = stackAfter requests
  restored : ∀ address called, (stackAfter requests).call address = .ok called →
    called.ret = .ok (Numeral.lowWord address, stackAfter requests)
  peeked : (stackAfter requests).peek = (stackAfter requests).ret.map Prod.fst

theorem acts_as_list (requests : List Request) : ActsAsList requests := by
  have shown (requests : List Request) := (⟨empty_tidy, rfl⟩ : empty.Represents []).answers requests
  obtain ⟨same, last⟩ := shown requests
  refine ⟨same, last.values, ⟨?_, ?_⟩, last.tidy.slots, ?_, ?_, peek_eq_ret _⟩
  · exact last.depth ▸ (stackAfter requests).depth_le
  · intro value member
    rw [listAfter, ← last.values] at member
    obtain ⟨address, _, rfl⟩ := List.mem_map.mp member
    exact Nat.le_of_lt_succ address.toNat_lt
  · intro others same
    exact (shown others).2.tidy.ext last.tidy same
  · intro address called pushed
    exact last.tidy.ret_of_call pushed

end CallStack

end Chip8
