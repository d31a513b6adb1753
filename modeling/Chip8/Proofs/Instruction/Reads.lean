import Chip8.Proofs.Instruction.Parts

namespace Chip8

def Condition.ReadsKeypad : Condition → Prop
  | .keyDown _ | .keyUp _ => True
  | _ => False

namespace Instruction

def ReadsKeypad : Instruction → Prop
  | .skip condition => condition.ReadsKeypad
  | .awaitKey _ => True
  | _ => False

def ReadsTimer : Instruction → Prop
  | .readDelay _ => True
  | _ => False

end Instruction

def Core.amid (core : Core) (random : RandomSource) (timers : Timers) (keypad : Keypad) : Core :=
  { core with random := random, timers := timers, keypad := keypad }

namespace Core

variable (core : Core) (random : RandomSource) (timers : Timers) (keypad : Keypad)

theorem ret_amid :
    (core.amid random timers keypad).ret =
      (core.ret.1.amid random timers keypad, core.ret.2) := by
  unfold ret amid
  dsimp only
  split <;> rfl

theorem call_amid (target : Address) :
    (core.amid random timers keypad).call target =
      ((core.call target).1.amid random timers keypad, (core.call target).2) := by
  unfold call amid
  dsimp only
  split <;> rfl

theorem jumpFrom_amid (dialect : Dialect) (base : Address) :
    (core.amid random timers keypad).jumpFrom dialect base =
      ((core.jumpFrom dialect base).1.amid random timers keypad,
        (core.jumpFrom dialect base).2) := by
  unfold jumpFrom amid
  dsimp only [v]
  split
  · split <;> rfl
  · rfl

theorem drawAtIndex_amid (x y : Reg) (rows : Fin 16) :
    (core.amid random timers keypad).drawAtIndex x y rows =
      ((core.drawAtIndex x y rows).1.amid random timers keypad,
        (core.drawAtIndex x y rows).2) := by
  unfold drawAtIndex amid
  dsimp only
  split <;> rfl

theorem compute_amid (op : Arith) (x y : Reg) :
    (core.amid random timers keypad).compute op x y =
      (core.compute op x y).amid random timers keypad := by
  unfold compute amid
  dsimp only [v]
  split <;> rfl

theorem awaitKey_amid (x : Reg) :
    (core.amid random timers core.keypad).awaitKey x =
      (core.awaitKey x).amid random timers core.keypad := by
  unfold awaitKey amid
  dsimp only
  split <;> rfl

theorem skipIf_amid (condition : Bool) :
    (core.amid random timers keypad).skipIf condition =
      (core.skipIf condition).amid random timers keypad := by
  unfold skipIf
  split <;> rfl

end Core

theorem Condition.holds_amid {condition : Condition} {core : Core} {keypad : Keypad}
    (sameKeys : condition.ReadsKeypad → keypad = core.keypad) (random : RandomSource)
    (timers : Timers) :
    condition.holds (core.amid random timers keypad) = condition.holds core := by
  cases condition with
  | keyDown x =>
      cases sameKeys trivial
      rfl
  | keyUp x =>
      cases sameKeys trivial
      rfl
  | _ => rfl

/-- Amid another random source, other timers and another keypad an instruction does the same and
ends the same, if the next random byte is the same, and the delay timer and the keypad are the same
where it reads them. -/
theorem Instruction.execute_amid (instruction : Instruction) (dialect : Dialect) {core : Core}
    {random : RandomSource} {timers : Timers} {keypad : Keypad}
    (sameByte : random.next.1 = core.random.next.1)
    (sameDelay : instruction.ReadsTimer → timers.delay = core.timers.delay)
    (sameKeys : instruction.ReadsKeypad → keypad = core.keypad) :
    instruction.execute dialect (core.amid random timers keypad) =
      ((instruction.execute dialect core).1.amid
        (instruction.randomAfter (core.amid random timers keypad))
        (instruction.timersAfter (core.amid random timers keypad)) keypad,
        (instruction.execute dialect core).2) := by
  cases instruction with
  | ret => exact core.ret_amid random timers keypad
  | call target => exact core.call_amid random timers keypad target
  | skip condition =>
      have holds := Condition.holds_amid sameKeys random timers
      simp only [execute, holds, core.skipIf_amid]
      rfl
  | arith op x y =>
      simp only [execute, core.compute_amid]
      rfl
  | jumpFrom base => exact core.jumpFrom_amid random timers keypad dialect base
  | random x mask =>
      have byte : (core.amid random timers keypad).random.next.1 = core.random.next.1 := sameByte
      simp only [execute, byte]
      rfl
  | draw x y rows => exact core.drawAtIndex_amid random timers keypad x y rows
  | readDelay x =>
      have delay : (core.amid random timers keypad).timers.delay = core.timers.delay :=
        sameDelay trivial
      simp only [execute, delay]
      rfl
  | awaitKey x =>
      cases sameKeys trivial
      simp only [execute, core.awaitKey_amid]
      rfl
  | _ => rfl

end Chip8
