import Chip8.Proofs.Instruction.Scope
import Chip8.Proofs.Machine.Failure

namespace Chip8.Machine

/-- A machine that runs a program and stands at a place of it, with these addresses on its stack. -/
structure Standing (program : Array UInt8) (place : Nat) (addresses : List Nat)
    (machine : Machine) : Prop where
  reached : machine.Reached
  running : machine.core.registers.halted = false
  memory : machine.core.memory = .holding program
  counter : machine.core.registers.pc = (512 + place : Nat)
  stack : machine.core.stack.toList.map UInt16.toNat = addresses

theorem holding_standing (rom : { rom : Rom // rom.Accepted }) :
    Standing rom.val.data 0 [] (holding rom) where
  reached := holding_reached rom
  running := holding_running rom
  memory := holding_memory rom
  counter := holding_counter rom
  stack := by
    rw [holding_stack]
    rfl

namespace Standing

variable {program : Array UInt8} {place : Nat} {addresses : List Nat} {machine : Machine}

theorem depth (standing : Standing program place addresses machine) :
    machine.core.stack.depth = addresses.length := by
  rw [← standing.stack, List.length_map, CallStack.length_toList]

theorem next_counter (standing : Standing program place addresses machine) (op : Opcode) :
    (machine.core.fetched op).registers.pc = (512 + (place + 2) : Nat) := by
  change machine.core.registers.pc + 2 = _
  rw [standing.counter]
  omega

/-- A command that touches neither the program, the registers nor the stack. -/
theorem stays (standing : Standing program place addresses machine) {command : Command}
    (registers : (machine.obey command).state.core.registers = machine.core.registers)
    (memory : (machine.obey command).state.core.memory = machine.core.memory)
    (stack : (machine.obey command).state.core.stack = machine.core.stack) :
    Standing program place addresses (machine.obey command).state where
  reached := standing.reached.obey command
  running := by rw [registers, standing.running]
  memory := memory.trans standing.memory
  counter := by rw [registers, standing.counter]
  stack := by rw [stack, standing.stack]

theorem tick (standing : Standing program place addresses machine) :
    Standing program place addresses (machine.obey .tick).state := by
  have ticked := tick_eq standing.reached.regular.passive
  refine standing.stays ?_ ?_ ?_ <;> rw [obey, ticked] <;> rfl

theorem input (standing : Standing program place addresses machine) (key : Int) (pressed : Bool) :
    Standing program place addresses (machine.obey (.input key pressed)).state := by
  obtain ⟨_, keypad, input⟩ := machine.input_leaves key pressed
  refine standing.stays ?_ ?_ ?_ <;> rw [obey, input] <;> rfl

theorem listen (standing : Standing program place addresses machine) (event : String)
    (label : Int) :
    Standing program place addresses (machine.subscribe ⟨event, label, .ignore⟩) := by
  have heard : Standing program place addresses (machine.obey (.listen event label)).state :=
    standing.stays rfl rfl rfl
  exact heard

theorem executes (standing : Standing program place addresses machine) (instruction : Instruction)
    (inside : place + 1 < 3584)
    (word : (program.getD place 0).toNat * 0x100 + (program.getD (place + 1) 0).toNat =
      instruction.word)
    (able : ∀ fault, ¬instruction.Fails machine.dialect machine.core fault) :
    machine.step.result = .ok () ∧ ∃ op, machine.step.state.core =
      (instruction.execute machine.dialect (machine.core.fetched op)).1.counted := by
  have fetched : machine.core.Fetches instruction.word :=
    word ▸ Core.fetches_holding standing.memory inside standing.counter
  exact step_executes standing.reached.regular.passive standing.reached.bounded.core.index.1
    standing.running fetched able

theorem goes (standing : Standing program place addresses machine) {instruction : Instruction}
    {op : Opcode} {next : Nat} {left : List Nat}
    (core : machine.step.state.core =
      (instruction.execute machine.dialect (machine.core.fetched op)).1.counted)
    (memory : instruction.memoryAfter machine.dialect (machine.core.fetched op) =
      machine.core.memory)
    (counter : instruction.counterAfter machine.dialect (machine.core.fetched op) =
      (512 + next : Nat))
    (stack : (instruction.stackAfter (machine.core.fetched op)).toList.map UInt16.toNat = left) :
    Standing program next left (machine.obey .step).state := by
  have around := instruction.execute_surroundings machine.dialect (machine.core.fetched op)
  refine ⟨standing.reached.obey .step, ?_, ?_, ?_, ?_⟩
  · rw [obey, core]
    exact (congrArg Surroundings.halted around).trans standing.running
  · rw [obey, core]
    exact (instruction.execute_memory _ _).trans (memory.trans standing.memory)
  · rw [obey, core]
    exact (instruction.execute_counter _ _).trans counter
  · have after := instruction.execute_stack machine.dialect (machine.core.fetched op)
    rw [obey, core, ← stack, ← after]
    rfl

theorem load (standing : Standing program place addresses machine) (x : Reg) (byte : UInt8)
    (inside : place + 1 < 3584)
    (word : (program.getD place 0).toNat * 0x100 + (program.getD (place + 1) 0).toNat =
      (Instruction.load x byte).word) :
    Standing program (place + 2) addresses (machine.obey .step).state ∧
      (machine.obey .step).state.core.v x = byte := by
  obtain ⟨_, op, core⟩ := standing.executes (.load x byte) inside word fun _ => id
  refine ⟨standing.goes core rfl (standing.next_counter op) standing.stack, ?_⟩
  rw [obey, core]
  exact ((machine.core.fetched op).v_setV x byte x).trans (if_pos rfl)

theorem call (standing : Standing program place addresses machine) (target : Address) (next : Nat)
    (inside : place + 1 < 3584)
    (word : (program.getD place 0).toNat * 0x100 + (program.getD (place + 1) 0).toNat =
      (Instruction.call target).word)
    (room : addresses.length < 16) (there : target.val = 512 + next) :
    machine.step.result = .ok () ∧
      Standing program next (addresses ++ [514 + place]) (machine.obey .step).state := by
  have notFull : machine.core.stack.depth ≠ 16 := by
    rw [standing.depth]
    omega
  obtain ⟨called, op, core⟩ := standing.executes (.call target) inside word fun _ full => notFull full.1
  have pc : (machine.core.fetched op).registers.pc = (514 + place : Nat) := by
    change machine.core.registers.pc + 2 = _
    rw [standing.counter]
    omega
  refine ⟨called, standing.goes core rfl ?_ ?_⟩
  · have notFetchedFull : (machine.core.fetched op).stack.depth ≠ 16 := notFull
    simp only [Instruction.counterAfter, if_neg notFetchedFull, there]
  · simp only [Instruction.stackAfter]
    cases pushed : (machine.core.fetched op).stack.call (machine.core.fetched op).registers.pc with
    | error fault =>
        have room : (machine.core.fetched op).stack.depth < 16 :=
          Nat.lt_of_le_of_ne (machine.core.fetched op).stack.depth_le notFull
        simp only [CallStack.call, room, dif_pos] at pushed
        cases pushed
    | ok stack =>
        have top := Numeral.lowWord_toNat (machine.core.fetched op).registers.pc
        have below : (machine.core.fetched op).stack.toList.map UInt16.toNat = addresses :=
          standing.stack
        rw [CallStack.toList_call pushed, List.map_append, below, List.map_singleton]
        congr 2
        omega

theorem ret (addresses : List Nat) (next : Nat)
    (standing : Standing program place (addresses ++ [512 + next]) machine)
    (inside : place + 1 < 3584)
    (word : (program.getD place 0).toNat * 0x100 + (program.getD (place + 1) 0).toNat =
      Instruction.ret.word) :
    machine.step.result = .ok () ∧
      Standing program next addresses (machine.obey .step).state := by
  have live : machine.core.stack.depth ≠ 0 := by
    rw [standing.depth]
    simp
  obtain ⟨returned, op, core⟩ := standing.executes .ret inside word fun _ empty => live empty.1
  have stack : (machine.core.fetched op).stack.toList.map UInt16.toNat = addresses ++ [512 + next] :=
    standing.stack
  cases popped : (machine.core.fetched op).stack.ret with
  | error fault =>
      have deep : 0 < (machine.core.fetched op).stack.depth := Nat.pos_of_ne_zero live
      simp only [CallStack.ret, deep, dif_pos] at popped
      cases popped
  | ok top =>
      obtain ⟨address, below⟩ := top
      rw [CallStack.toList_ret popped, List.map_append, List.map_singleton] at stack
      obtain ⟨rest, last⟩ := List.append_inj' stack rfl
      refine ⟨returned, standing.goes core rfl ?_ ?_⟩
      · simp only [Instruction.counterAfter, popped]
        simp at last
        omega
      · simp only [Instruction.stackAfter, popped]
        exact rest

end Standing

end Chip8.Machine
