import Chip8.Proofs.Hardware.Fetch
import Chip8.Proofs.Machine.Run

namespace Chip8

namespace Memory

theorem read_holding (program : Array UInt8) {k : Nat} (inside : k < 3584) :
    (holding program).read (512 + k : Nat) = .ok (program.getD k 0) := by
  have bound : 512 + k < 4096 := by omega
  have notReserved : ¬512 + k < programStart := by
    unfold programStart
    omega
  have place : 512 + k - programStart = k := by
    unfold programStart
    omega
  rw [read_eq _ _ bound]
  simp [holding, notReserved, place]

end Memory

theorem Core.fetches_holding {core : Core} {program : Array UInt8}
    (memory : core.memory = .holding program) {k : Nat} (inside : k + 1 < 3584)
    (counter : core.registers.pc = (512 + k : Nat)) :
    core.Fetches ((program.getD k 0).toNat * 0x100 + (program.getD (k + 1) 0).toNat) := by
  have first := Memory.read_holding program (k := k) (by omega)
  have second := Memory.read_holding program inside
  have next : ((512 + k : Nat) : Int) + 1 = (512 + (k + 1) : Nat) := by omega
  unfold Fetches
  rw [memory, counter, next]
  exact ⟨by omega, _, _, first, second, rfl⟩

namespace Machine

/-- A new machine of the standard dialect with a program. All its random bytes are zero. -/
def holding (rom : { rom : Rom // rom.Accepted }) : Machine :=
  (create .standard ⟨fun _ => 0, 0⟩ 10).run [.load rom]

variable (rom : { rom : Rom // rom.Accepted })

theorem holding_reached : (holding rom).Reached := ⟨_, _, _, _, rfl⟩

theorem holding_eq :
    holding rom = ((create .standard ⟨fun _ => 0, 0⟩ 10).inserted rom.val).restarted := by
  have passive := (create_regular .standard ⟨fun _ => 0, 0⟩ 10).passive
  change ((create .standard ⟨fun _ => 0, 0⟩ 10).load rom.val).state = _
  rw [load_eq passive rom.property]

theorem holding_registers : (holding rom).core.registers = .powerOn := by
  rw [holding_eq]
  rfl

theorem holding_running : (holding rom).core.registers.halted = false := by
  rw [holding_registers]
  rfl

theorem holding_counter : (holding rom).core.registers.pc = (512 + 0 : Nat) := by
  rw [holding_registers]
  rfl

theorem holding_stack : (holding rom).core.stack = .empty := by
  rw [holding_eq]
  rfl

theorem holding_timers : (holding rom).core.timers = .stopped := by
  rw [holding_eq]
  rfl

theorem holding_subscribers : (holding rom).subscribers = [] := by
  rw [holding_eq]
  rfl

theorem holding_memory : (holding rom).core.memory = .holding rom.val.data := by
  rw [holding_eq]
  rfl

end Machine

end Chip8
