import Chip8.Fault
import Chip8.Numeral.Bits

namespace Chip8

/-- Return addresses, of which the first `depth` slots are in use. -/
structure CallStack where
  slots : Vector UInt16 16
  depth : Nat
  depth_le : depth ≤ 16
  deriving DecidableEq, Repr

namespace CallStack

def empty : CallStack := ⟨Vector.replicate 16 0, 0, by omega⟩

/-- The return addresses from bottom to top. -/
def toList (stack : CallStack) : List UInt16 := stack.slots.toList.take stack.depth

/-- Puts the low sixteen bits of an address on top. -/
def call (stack : CallStack) (address : Int) : Except Fault CallStack :=
  if room : stack.depth < 16 then
    .ok ⟨stack.slots.set stack.depth (Numeral.lowWord address), stack.depth + 1, room⟩
  else .error (.stackOverflow stack.depth)

def peek (stack : CallStack) : Except Fault UInt16 :=
  if live : 0 < stack.depth then
    have bound : stack.depth - 1 < 16 := by have := stack.depth_le; omega
    .ok stack.slots[stack.depth - 1]
  else .error .emptyStack

/-- Takes the address on top away and clears its slot. -/
def ret (stack : CallStack) : Except Fault (UInt16 × CallStack) :=
  if live : 0 < stack.depth then
    have bound : stack.depth - 1 < 16 := by have := stack.depth_le; omega
    .ok (stack.slots[stack.depth - 1], ⟨stack.slots.set (stack.depth - 1) 0, stack.depth - 1, by omega⟩)
  else .error .emptyStack

theorem length_toList (stack : CallStack) : stack.toList.length = stack.depth := by
  simp [toList, stack.depth_le]

theorem toList_call {stack after : CallStack} {address : Int}
    (called : stack.call address = .ok after) :
    after.toList = stack.toList ++ [Numeral.lowWord address] := by
  unfold call at called
  split at called
  · rename_i room
    cases called
    have inside : stack.depth < (stack.slots.toList.set stack.depth (Numeral.lowWord address)).length := by
      simpa using room
    simp only [toList, Vector.toList_set]
    rw [List.take_succ_eq_append_getElem inside, List.take_set_of_le (Nat.le_refl _),
      List.getElem_set_self]
  · cases called

theorem toList_ret {stack after : CallStack} {address : UInt16}
    (returned : stack.ret = .ok (address, after)) :
    stack.toList = after.toList ++ [address] := by
  unfold ret at returned
  split at returned
  · rename_i live
    cases returned
    have depth_le := stack.depth_le
    have inside : stack.depth - 1 < stack.slots.toList.length := by
      simp only [Vector.length_toList]
      omega
    have top := List.take_succ_eq_append_getElem inside
    rw [Nat.sub_add_cancel live, Vector.getElem_toList] at top
    simp only [toList, Vector.toList_set]
    rw [top, List.take_set_of_le (Nat.le_refl _)]
  · cases returned

def describe (stack : CallStack) : String :=
  let shown := stack.toList.map fun address => "'" ++ Numeral.marked 4 address.toNat ++ "'"
  "<CallStack depth=" ++ toString stack.depth ++ " [" ++ ", ".intercalate shown ++ "]>"

end CallStack

end Chip8
