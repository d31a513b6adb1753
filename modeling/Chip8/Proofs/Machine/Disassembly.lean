import Chip8.Proofs.Instruction.Assembler
import Chip8.Proofs.Machine.Standing

namespace Chip8.Machine

open Assembly

variable {machine : Machine}

/-- What a listing tells of the cycle that has left it. -/
structure Disassembles (machine : Machine) (listing : Listing) (word : Nat) : Prop where
  last : machine.step.state.lastInstruction = some listing
  address : listing.address = machine.core.registers.pc
  fetched : machine.core.Fetches word
  opcode : listing.opcode = word
  assembled : assemble? listing.text = some word

/-- Every completed cycle of a reachable machine tells in text which word it executed. -/
theorem Reached.step_disassembles (reached : machine.Reached)
    (running : machine.core.registers.halted = false) (completed : machine.step.result = .ok ()) :
    (∃ listing word, machine.Disassembles listing word) ∧
      ∀ other : Machine, other.Reached → other.core.registers.halted = false →
        other.step.result = .ok () → ∀ first second,
        machine.step.state.lastInstruction = some first →
        other.step.state.lastInstruction = some second →
        (first.text = second.text ↔
          ∃ word, machine.core.Fetches word ∧ other.core.Fetches word) := by
  obtain ⟨op, instruction, read, known, listed⟩ :=
    step_lists reached.regular.passive running completed
  have fetched : machine.core.Fetches op.word := Core.fetches_iff.mpr ⟨op, read, rfl⟩
  constructor
  · exact ⟨_, op.word, listed, rfl, fetched, rfl, Instruction.assemble?_text _ known⟩
  · intro other otherReached otherRunning otherCompleted first second last otherLast
    obtain ⟨otherOp, otherInstruction, otherRead, otherKnown, otherListed⟩ :=
      step_lists otherReached.regular.passive otherRunning otherCompleted
    cases listed.symm.trans last
    cases otherListed.symm.trans otherLast
    rw [Instruction.text_eq_iff known otherKnown]
    constructor
    · intro same
      exact ⟨op.word, fetched, Core.fetches_iff.mpr ⟨otherOp, otherRead, same.symm⟩⟩
    · rintro ⟨word, here, there⟩
      rw [Core.word_of_fetches read here, Core.word_of_fetches otherRead there]

namespace Standing

variable {program : Array UInt8} {place : Nat} {addresses : List Nat}

theorem setIndex (standing : Standing program place addresses machine) (target : Address)
    (inside : place + 1 < 3584)
    (word : (program.getD place 0).toNat * 0x100 + (program.getD (place + 1) 0).toNat =
      (Instruction.setIndex target).word) :
    Standing program (place + 2) addresses (machine.obey .step).state ∧
      (machine.obey .step).state.core.registers.i = target.val := by
  obtain ⟨_, op, core⟩ := standing.executes (.setIndex target) inside word fun _ => id
  refine ⟨standing.goes core rfl (standing.next_counter op) standing.stack, ?_⟩
  rw [obey, core]
  rfl

theorem store (standing : Standing program place addresses machine) (inside : place + 1 < 3584)
    (word : (program.getD place 0).toNat * 0x100 + (program.getD (place + 1) 0).toNat =
      (Instruction.store 0).word)
    (index : 0x200 ≤ machine.core.registers.i ∧ machine.core.registers.i ≤ 0xFFF) :
    machine.step.result = .ok () := by
  have span : machine.dialect.span 0 ≤ 1 := by
    unfold Dialect.span
    split <;> decide
  refine (standing.executes (.store 0) inside word fun fault fails => ?_).1
  obtain ⟨_, outside, _⟩ := fails
  omega

end Standing

/-- A program whose second instruction stores `V0` where the instruction itself stands. -/
def selfWriting : { rom : Rom // rom.Accepted } :=
  ⟨⟨"", #[0xA2, 0x02, 0xF0, 0x55]⟩, Rom.accepted_of_size (by decide) (by decide)⟩

theorem selfWriting_disassembles :
    ∃ listing, ((holding selfWriting).obey .step).state.Disassembles listing 0xF055 := by
  obtain ⟨standing, index⟩ := (holding_standing selfWriting).setIndex 0x202 (by decide) (by decide)
  generalize ((holding selfWriting).obey .step).state = machine at standing index
  have inside : 0x200 ≤ machine.core.registers.i ∧ machine.core.registers.i ≤ 0xFFF := by
    rw [index]
    decide
  have completed := standing.store (by decide) (by decide) inside
  have there : machine.core.Fetches 0xF055 :=
    Core.fetches_holding standing.memory (by decide) standing.counter
  obtain ⟨⟨listing, word, disassembles⟩, _⟩ :=
    standing.reached.step_disassembles standing.running completed
  obtain ⟨op, read, rfl⟩ := Core.fetches_iff.mp disassembles.fetched
  rw [Core.word_of_fetches read there] at disassembles
  exact ⟨listing, disassembles⟩

end Chip8.Machine
