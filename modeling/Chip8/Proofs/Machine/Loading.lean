import Chip8.Proofs.Hardware.Image
import Chip8.Proofs.Machine.Program

namespace Chip8

namespace Rom

variable {data : Array UInt8}

theorem ofBytes_of_size (nonempty : 1 ≤ data.size) (fits : data.size ≤ 3584) :
    (ofBytes data).result = .ok ⟨"", data⟩ := by
  have notEmpty : data.size ≠ 0 := Nat.ne_of_gt nonempty
  have notLarge : ¬maxSize < data.size := Nat.not_lt.mpr fits
  rw [ofBytes, if_neg notEmpty, if_neg notLarge]

theorem ofBytes_eq_ok {rom : Rom} (taken : (ofBytes data).result = .ok rom) :
    (1 ≤ data.size ∧ data.size ≤ 3584) ∧ rom = ⟨"", data⟩ := by
  obtain ⟨nonempty, fits⟩ : 1 ≤ data.size ∧ data.size ≤ 3584 := by
    unfold ofBytes at taken
    split at taken
    · cases taken
    · rename_i notEmpty
      split at taken
      · cases taken
      · rename_i notLarge
        exact ⟨Nat.pos_of_ne_zero notEmpty, Nat.not_lt.mp notLarge⟩
  rw [ofBytes_of_size nonempty fits] at taken
  cases taken
  exact ⟨⟨nonempty, fits⟩, rfl⟩

theorem ofBytes_records :
    (ofBytes data).records.map (·.level) =
      if (1 ≤ data.size ∧ data.size ≤ 3584) ∧ data.size % 2 = 1 then [.warning] else [] := by
  unfold ofBytes
  by_cases empty : data.size = 0
  · simp [empty]
  · by_cases large : maxSize < data.size
    · have noRoom : ¬data.size ≤ 3584 := Nat.not_le.mpr large
      simp [empty, large, noRoom]
    · have room : data.size ≤ 3584 := Nat.not_lt.mp large
      have nonempty : 1 ≤ data.size := Nat.pos_of_ne_zero empty
      by_cases odd : data.size % 2 = 1
      · simp [empty, large, room, nonempty, odd]
        rfl
      · simp [empty, large, room, nonempty, odd]

end Rom

namespace Machine

variable {machine : Machine}

theorem reload_refused {activity : Activity} {rom : Rom} (inserted : activity.machine.rom = some rom)
    (tooLarge : 3584 < rom.data.size) :
    Action.reload activity = ⟨.error (.ofFault (.outOfMemory rom.data.size 3584)), activity, []⟩ := by
  have refused := activity.machine.core.memory.loadProgram_refused tooLarge
  simp only [Action.reload, inserted, refused]

theorem Regular.load_holds (regular : machine.Regular) {data : Array UInt8} {rom : Rom}
    (taken : (Rom.ofBytes data).result = .ok rom) :
    (machine.load rom).result = .ok () ∧ (machine.load rom).state.core.memory.Holds data := by
  obtain ⟨⟨nonempty, fits⟩, rfl⟩ := Rom.ofBytes_eq_ok taken
  have accepted : (⟨"", data⟩ : Rom).Accepted := Rom.accepted_of_size (Nat.ne_of_gt nonempty) fits
  have loaded := load_eq regular.passive accepted
  obtain ⟨after, written, holds⟩ := Memory.powerOn.loadProgram_holds fits
  rw [Memory.loadProgram_powerOn fits] at written
  have same : Memory.holding data = after := Except.ok.inj written
  rw [← same] at holds
  rw [loaded]
  exact ⟨rfl, holds⟩

/-- What a machine does with images, of whatever bytes or words. -/
structure LoadsVerbatim (machine : Machine) : Prop where
  taken : ∀ data : Array UInt8,
    (∃ rom, (Rom.ofBytes data).result = .ok rom) ↔ 1 ≤ data.size ∧ data.size ≤ 3584
  warned : ∀ data : Array UInt8, (Rom.ofBytes data).records.map (·.level) =
    if (1 ≤ data.size ∧ data.size ≤ 3584) ∧ data.size % 2 = 1 then [.warning] else []
  loaded : ∀ (data : Array UInt8) (rom : Rom), (Rom.ofBytes data).result = .ok rom →
    (machine.load rom).result = .ok () ∧ (machine.load rom).state.core.memory.Holds data
  words : ∀ words : List Opcode, 1 ≤ words.length → words.length ≤ 1792 →
    ∃ rom, (Rom.ofBytes (bigEndian words).toArray).result = .ok rom ∧
      (machine.load rom).state.core.memory.ReadsBack words
  replaced : ∀ (memory : Memory) (data : Array UInt8), data.size ≤ 3584 →
    ∃ after, memory.loadProgram data = .ok after ∧ after.Holds data
  refused : ∀ (memory : Memory) (data : Array UInt8), 3584 < data.size →
    memory.loadProgram data = .error (.outOfMemory data.size 3584)
  unchanged : ∀ (activity : Activity) (rom : Rom), activity.machine.rom = some rom →
    3584 < rom.data.size →
    Action.reload activity = ⟨.error (.ofFault (.outOfMemory rom.data.size 3584)), activity, []⟩

/-- Images are loaded as they are, into whatever machine, and read back as the words they were made
of. -/
theorem Reached.loadsVerbatim (reached : machine.Reached) : machine.LoadsVerbatim where
  taken data :=
    ⟨fun ⟨_, taken⟩ => (Rom.ofBytes_eq_ok taken).1, fun ⟨nonempty, fits⟩ =>
      ⟨_, Rom.ofBytes_of_size nonempty fits⟩⟩
  warned data := Rom.ofBytes_records
  loaded data rom taken := reached.regular.load_holds taken
  words words nonempty fits := by
    have size : (bigEndian words).toArray.size = 2 * words.length := length_bigEndian words
    have taken : (Rom.ofBytes (bigEndian words).toArray).result = _ :=
      Rom.ofBytes_of_size (by omega) (by omega)
    exact ⟨_, taken, (reached.regular.load_holds taken).2.readsBack fits⟩
  replaced memory data fits := memory.loadProgram_holds fits
  refused memory data tooLarge := memory.loadProgram_refused tooLarge
  unchanged activity rom inserted tooLarge := reload_refused inserted tooLarge

/-- An image that fills the program region. -/
def full : { rom : Rom // rom.Accepted } :=
  ⟨⟨"", .replicate 3584 0xFF⟩, Rom.accepted_of_size (by simp) (by simp [Rom.maxSize]; decide)⟩

theorem full_loadsVerbatim : (holding full).LoadsVerbatim := (holding_reached full).loadsVerbatim

end Machine

end Chip8
