import Chip8.Proofs.Instruction.Words
import Chip8.Proofs.Machine.Bounds

namespace Chip8

namespace Memory

def Reserved (memory : Memory) : Prop :=
  ∀ a (bound : a < 4096), a < 512 → memory.cells[a] = reserved a

variable {memory : Memory}

theorem powerOn_reserved : powerOn.Reserved := by
  intro a bound _
  exact Vector.getElem_ofFn bound

theorem holding_reserved (program : Array UInt8) : (holding program).Reserved := by
  intro a bound below
  have before : a < programStart := below
  simp [holding, before]

theorem writeAll_reserved (kept : memory.Reserved) (address : Int) (bytes : List UInt8) :
    (memory.writeAll address bytes).1.Reserved := by
  intro a bound below
  have notReached : ¬(512 ≤ address ∧ address ≤ a) := by omega
  rw [getElem_writeAll _ _ _ a bound, if_neg notReached]
  exact kept a bound below

theorem Reserved.take (kept : memory.Reserved) :
    memory.cells.toList.take 0x200 =
      List.replicate 0x50 0 ++ font.toList ++ List.replicate 0x160 0 := by
  have cells : memory.cells.toList.take 0x200 = (List.range 0x200).map reserved := by
    apply List.ext_getElem
    · simp
    · intro a inside _
      have below : a < 512 := by simp at inside; omega
      have cell := kept a (by omega) below
      simpa using cell
  rw [cells]
  decide +kernel

theorem Reserved.glyph (kept : memory.Reserved) (digit : Fin 16) :
    memory.readSprite (fontAddress digit.val) 5 =
      .ok ((font.toList.drop (5 * digit.val)).take 5) := by
  have place : fontAddress digit.val = (0x50 + 5 * digit.val : Nat) := by
    simp only [fontAddress, fontStart, glyphSize]
    omega
  have bound := digit.isLt
  have sprites : font.size = 80 := rfl
  have short : 0 ≤ (5 : Int) ∧ (5 : Int) ≤ (maxSpriteLength : Int) := by decide
  have inside : 0 ≤ ((0x50 + 5 * digit.val : Nat) : Int) ∧
      ((0x50 + 5 * digit.val : Nat) : Int) + 5 ≤ (size : Int) := by
    simp only [size]
    omega
  have last : (((0x50 + 5 * digit.val : Nat) : Int) + 5).toNat = 0x50 + 5 * digit.val + 5 := by omega
  unfold Memory.readSprite
  rw [place, if_pos short, if_pos inside, last, Int.toNat_natCast]
  congr 1
  apply List.ext_getElem
  · simp [sprites]
    omega
  · intro row inSprite inFont
    have within : row < 5 := by simp at inFont; omega
    have cell := kept (0x50 + 5 * digit.val + row) (by omega) (by omega)
    have isFont : fontStart ≤ 0x50 + 5 * digit.val + row := by
      simp only [fontStart]
      omega
    have shift : 0x50 + 5 * digit.val + row - fontStart = 5 * digit.val + row := by
      simp only [fontStart]
      omega
    have given : 5 * digit.val + row < font.size := by omega
    rw [reserved, if_pos isFont, shift] at cell
    simp [cell, Array.getElem?_eq_getElem given]

end Memory

def Listing.InProgram (listing : Listing) : Prop :=
  0x200 ≤ listing.address ∧ listing.address + 1 ≤ 0xFFF

namespace Machine

variable {machine : Machine} {label : Int} {listing : Listing}

theorem execute_reserved {core : Core} (kept : core.memory.Reserved) (dialect : Dialect)
    (instruction : Instruction) : (instruction.execute dialect core).1.memory.Reserved := by
  rw [Instruction.execute_memory]
  cases instruction with
  | decimal x => exact Memory.writeAll_reserved kept _ _
  | store x => exact Memory.writeAll_reserved kept _ _
  | _ => exact kept

theorem image_reserved (machine : Machine) : machine.image.Reserved := by
  unfold image
  cases machine.rom with
  | none => exact Memory.powerOn_reserved
  | some rom => exact Memory.holding_reserved rom.data

theorem Cycle.reserved (kept : machine.core.memory.Reserved) {outcome : Outcome Machine Unit}
    (cycle : machine.Cycle outcome) : outcome.state.core.memory.Reserved := by
  cases cycle with
  | idle => exact kept
  | unread => exact kept
  | unknown => exact kept
  | @failed op instruction core failure running read known executed =>
      have before : (machine.core.fetched op).memory.Reserved := kept
      have after := execute_reserved before machine.dialect instruction
      rw [executed] at after
      exact after
  | @done op instruction core running read known executed =>
      have before : (machine.core.fetched op).memory.Reserved := kept
      have after := execute_reserved before machine.dialect instruction
      rw [executed] at after
      rw [completed_core]
      exact after

theorem reserved_kept : Kept fun machine => machine.core.memory.Reserved where
  cycle _ kept cycle := cycle.reserved kept
  tick kept := kept
  restart {machine} rom _ _ := image_reserved { machine with rom := rom }
  halt kept := kept
  input _ kept := kept
  aside _ _ _ _ kept _ := kept

theorem Reached.reserved (reached : machine.Reached) : machine.core.memory.Reserved :=
  reserved_kept.reached (fun _ _ _ => Memory.powerOn_reserved) reached

def TellsInProgram (effects : List Effect) : Prop :=
  ∀ label listing, .notified label (.executed listing) ∈ effects → listing.InProgram

theorem TellsInProgram.append {first second : List Effect} (one : TellsInProgram first)
    (other : TellsInProgram second) : TellsInProgram (first ++ second) := by
  intro label listing told
  rcases List.mem_append.mp told with here | there
  · exact one label listing here
  · exact other label listing there

theorem tellsInProgram_notes {event : Event}
    (inProgram : ∀ listing, event = .executed listing → listing.InProgram) :
    TellsInProgram (machine.notes event) := by
  intro label listing told
  obtain ⟨subscriber, _, note⟩ := List.mem_map.mp told
  cases event <;> cases note
  exact inProgram listing rfl

theorem tellsInProgram_toneNotes : TellsInProgram machine.toneNotes := by
  unfold toneNotes
  split
  · rintro _ _ ⟨⟩
  · exact tellsInProgram_notes (by rintro _ ⟨⟩)

theorem tellsInProgram_recorded (record : Journal.Record) : TellsInProgram [.recorded record] := by
  intro label listing told
  cases List.mem_singleton.mp told

theorem Cycle.tellsInProgram {outcome : Outcome Machine Unit} (cycle : machine.Cycle outcome) :
    TellsInProgram outcome.effects := by
  have begun : TellsInProgram (machine.notes (.beforeCycle machine.core.registers.cycles)) :=
    tellsInProgram_notes (by rintro _ ⟨⟩)
  cases cycle with
  | idle => rintro _ _ ⟨⟩
  | unread => exact begun
  | unknown => exact begun
  | failed => exact begun
  | @done op instruction core running read known executed =>
      have inside := Memory.readOpcode_inside read
      have inProgram : (instruction.listing machine.core.registers.pc op).InProgram :=
        ⟨inside.1, by change machine.core.registers.pc + 1 ≤ 0xFFF; omega⟩
      refine begun.append (tellsInProgram_toneNotes.append (.append ?_ (.append ?_ ?_)))
      · unfold logNotes
        split
        · exact tellsInProgram_recorded _
        · rintro _ _ ⟨⟩
      · refine tellsInProgram_notes ?_
        rintro _ ⟨⟩
        exact inProgram
      · exact tellsInProgram_notes (by rintro _ ⟨⟩)

theorem cycles_tellsInProgram (passive : machine.Passive) (count : Nat) :
    TellsInProgram (machine.cycles count).effects := by
  refine cycles_induction (R := fun _ outcome => TellsInProgram outcome.effects) ?_ ?_ ?_ passive count
  · rintro _ _ _ ⟨⟩
  · intro machine failure passive _
    exact (step_cycle passive).tellsInProgram
  · intro machine rest passive _ later
    exact (step_cycle passive).tellsInProgram.append later

theorem frame_tellsInProgram (regular : machine.Regular) :
    TellsInProgram machine.frame.effects := by
  have cycled := cycles_tellsInProgram regular.passive machine.frameCycles
  rcases frame_cases regular.passive rfl with ⟨_, _, frame⟩ | ⟨_, frame⟩ <;> rw [frame]
  · exact cycled
  · exact cycled.append (tellsInProgram_toneNotes.append (tellsInProgram_notes (by rintro _ ⟨⟩)))

theorem obey_tellsInProgram (regular : machine.Regular) (command : Command) :
    TellsInProgram (machine.obey command).effects := by
  cases command with
  | load rom =>
      rw [obey, load_eq regular.passive rom.property]
      exact (tellsInProgram_toneNotes.append (tellsInProgram_recorded _)).append
        (tellsInProgram_recorded _)
  | reset =>
      rw [obey, reset_eq regular.passive regular.accepted]
      exact tellsInProgram_toneNotes.append (tellsInProgram_recorded _)
  | input key pressed =>
      obtain ⟨_, keypad, input⟩ := machine.input_leaves key pressed
      rw [obey, input]
      rintro _ _ ⟨⟩
  | step => exact (step_cycle regular.passive).tellsInProgram
  | tick =>
      rw [obey, tick_eq regular.passive]
      exact tellsInProgram_toneNotes
  | frame => exact frame_tellsInProgram regular
  | _ => rintro _ _ ⟨⟩

/-- If the next cycle is completed, then with an instruction that was read from two bytes of the
program. -/
def CompletesInProgram (machine : Machine) : Prop :=
  machine.core.registers.halted = false → machine.step.result = .ok () →
    ∃ listing, machine.step.state.lastInstruction = some listing ∧ listing.InProgram ∧
      listing.address = machine.core.registers.pc ∧
      ∃ word : Nat, listing.opcode = word ∧ machine.core.Fetches word

theorem completesInProgram (passive : machine.Passive) : machine.CompletesInProgram := by
  intro running completed
  obtain ⟨op, instruction, core, read, _, _, step⟩ := step_of_ok passive running completed
  have inside := Memory.readOpcode_inside read
  rw [step]
  refine ⟨_, completed_lastInstruction _ _ _, ⟨inside.1, ?_⟩, rfl, op.word, rfl, ?_⟩
  · change machine.core.registers.pc + 1 ≤ 0xFFF
    omega
  · exact Core.fetches_iff.mpr ⟨op, read, rfl⟩

theorem step_glyph (passive : machine.Passive)
    (running : machine.core.registers.halted = false) {x : Reg}
    (fetched : machine.core.Fetches (Instruction.glyph x).word) :
    machine.step.result = .ok () ∧
      machine.step.state.core.registers.i = Memory.fontAddress (machine.core.keyOf x).val := by
  obtain ⟨op, read, word⟩ := Core.fetches_iff.mp fetched
  have known := Instruction.decode?_of_word word
  have executed : (Instruction.glyph x).execute machine.dialect (machine.core.fetched op) =
      ((machine.core.fetched op).setI (Memory.fontAddress (machine.core.keyOf x).val), none) := rfl
  have core := step_core passive running read known executed
  constructor
  · rw [step_eq passive (.done running read known executed)]
  · rw [core]
    rfl

/-- Reserved memory is as it was at power-on, and nothing in it was ever executed. -/
structure Guarded (machine : Machine) : Prop where
  /-- Zeros, and the digit sprites from 80 on. -/
  reserved : machine.core.memory.cells.toList.take 0x200 =
    List.replicate 0x50 0 ++ Memory.font.toList ++ List.replicate 0x160 0
  /-- In the course of a frame, too, only instructions of the program are executed. -/
  completed : ∀ count, (machine.cycles count).state.CompletesInProgram
  announced : ∀ command, TellsInProgram (machine.obey command).effects
  /-- Once the index was pointed at a digit, and as long as it points there, it finds the sprite. -/
  glyph : ∀ x, machine.core.registers.halted = false →
    machine.core.Fetches (Instruction.glyph x).word →
    machine.step.result = .ok () ∧
      ∀ commands, (machine.step.state.run commands).core.registers.i =
          machine.step.state.core.registers.i →
        (machine.step.state.run commands).core.memory.readSprite
            (machine.step.state.run commands).core.registers.i 5 =
          .ok ((Memory.font.toList.drop (5 * ((machine.core.v x).toNat % 16))).take 5)

theorem Reached.guarded (reached : machine.Reached) : machine.Guarded where
  reserved := reached.reserved.take
  completed count := completesInProgram (cycles_passive reached.regular.passive count)
  announced := obey_tellsInProgram reached.regular
  glyph x running fetched := by
    obtain ⟨succeeded, index⟩ := step_glyph reached.regular.passive running fetched
    refine ⟨succeeded, ?_⟩
    intro commands unchanged
    have later := ((reached.obey .step).run commands).reserved
    rw [unchanged, index]
    exact later.glyph (machine.core.keyOf x)

/-- Whatever programs a machine is given and whatever is asked of it, its reserved memory stays
guarded. -/
theorem run_guarded (dialect : Dialect) (random : RandomSource) (cyclesPerFrame : Int)
    (commands : List Command) :
    ((create dialect random cyclesPerFrame).run commands).Guarded :=
  Reached.guarded ⟨dialect, random, cyclesPerFrame, commands, rfl⟩

end Machine

end Chip8
