import Chip8.Proofs.Machine.Schedule

/-! A dialect may refuse a computed jump that leads out of the program, or take its target modulo
4096. The two settings accept the same runs. As long as no jump is refused, a machine does without the
check what it does with it. A jump that is refused with the check leads without it to an address from
which no word can be read. -/

namespace Chip8

def Dialect.unchecked (dialect : Dialect) : Dialect := { dialect with checkedJump := false }

namespace Core

variable {core : Core} {dialect : Dialect} {base : Address}

/-- A sum of a byte and an address that lies outside of the program, lies outside of it modulo 4096
as well. -/
theorem target_astray (outside : ¬(0x200 ≤ core.target base ∧ core.target base ≤ 0xFFE)) :
    ¬(0x200 ≤ core.target base % 4096 ∧ core.target base % 4096 ≤ 0xFFE) := by
  have byte := (core.v 0).toNat_lt
  have address := base.isLt
  unfold target at *
  omega

theorem jumpFrom_unchecked (dialect : Dialect) :
    core.jumpFrom dialect.unchecked base = (core.setPc (core.target base % 4096), none) := by
  rw [jumpFrom_apply]
  exact if_neg Bool.false_ne_true

theorem jumpFrom_inside (dialect : Dialect)
    (inside : 0x200 ≤ core.target base ∧ core.target base ≤ 0xFFE) :
    core.jumpFrom dialect base = (core.setPc (core.target base), none) := by
  have same : core.target base % 4096 = core.target base := by omega
  rw [jumpFrom_apply, if_pos inside, same, ite_self]

theorem jumpFrom_refused (checking : dialect.checkedJump = true)
    (outside : ¬(0x200 ≤ core.target base ∧ core.target base ≤ 0xFFE)) :
    core.jumpFrom dialect base =
      (core, some (.ofFault (.outOfBounds (core.target base) .notTarget))) := by
  rw [jumpFrom_apply, if_pos checking, if_neg outside]

end Core

theorem Instruction.execute_unchecked {instruction : Instruction} {dialect : Dialect} {core : Core}
    (inside : ∀ base, instruction = .jumpFrom base →
      0x200 ≤ core.target base ∧ core.target base ≤ 0xFFE) :
    instruction.execute dialect.unchecked core = instruction.execute dialect core := by
  cases instruction with
  | jumpFrom base =>
      have stays := inside base rfl
      rw [execute, execute, Core.jumpFrom_inside dialect stays, Core.jumpFrom_inside _ stays]
  | _ => rfl

/-- The outcome with its state changed. -/
def Outcome.onState {σ α : Type} (change : σ → σ) (outcome : Outcome σ α) : Outcome σ α :=
  { outcome with state := change outcome.state }

namespace Machine

def unchecked (machine : Machine) : Machine := { machine with dialect := machine.dialect.unchecked }

/-- The next cycle executes a computed jump and fails. -/
def Strays (machine : Machine) (base : Address) : Prop :=
  machine.Executes (.jumpFrom base) ∧ machine.step.result ≠ .ok ()

variable {machine : Machine} {base : Address}

theorem step_inside (passive : machine.Passive) (executing : machine.Executes (.jumpFrom base))
    (inside : 0x200 ≤ machine.core.target base ∧ machine.core.target base ≤ 0xFFE) :
    machine.step.result = .ok () := by
  obtain ⟨running, op, read, known⟩ := executes_iff.mp executing
  have executed : (Instruction.jumpFrom base).execute machine.dialect (machine.core.fetched op) = _ :=
    Core.jumpFrom_inside machine.dialect inside
  rw [step_eq passive (.done running read known executed)]

theorem step_refused (passive : machine.Passive) (checking : machine.dialect.checkedJump = true)
    (executing : machine.Executes (.jumpFrom base))
    (outside : ¬(0x200 ≤ machine.core.target base ∧ machine.core.target base ≤ 0xFFE)) :
    machine.step.result = .error
      (.trap ⟨.outOfBounds (machine.core.target base) .notTarget, some machine.core.registers.pc⟩) := by
  obtain ⟨running, op, read, known⟩ := executes_iff.mp executing
  have executed : (Instruction.jumpFrom base).execute machine.dialect (machine.core.fetched op) = _ :=
    Core.jumpFrom_refused checking outside
  rw [step_eq passive (.failed running read known executed)]
  rfl

theorem strays_iff (passive : machine.Passive) (checking : machine.dialect.checkedJump = true) :
    machine.Strays base ↔ machine.Executes (.jumpFrom base) ∧
      ¬(0x200 ≤ machine.core.target base ∧ machine.core.target base ≤ 0xFFE) := by
  refine and_congr_right fun executing => ⟨fun failed inside => ?_, fun outside => ?_⟩
  · exact failed (step_inside passive executing inside)
  · rw [step_refused passive checking executing outside]
    rintro ⟨⟩

theorem waited_unread (passive : machine.Passive) (running : machine.core.registers.halted = false)
    (beyond : ¬(0x200 ≤ machine.core.registers.pc ∧ machine.core.registers.pc ≤ 0xFFE))
    (gap : List Interlude) :
    (machine.waited gap).step.result = .error
      (.trap ⟨.outOfBounds machine.core.registers.pc .notCounter, some machine.core.registers.pc⟩) := by
  obtain ⟨toneOn, waited⟩ := waited_eq passive gap
  have refused : machine.core.memory.readOpcode machine.core.registers.pc = .error _ :=
    Memory.readOpcode_error_iff.mpr ⟨beyond, rfl⟩
  have stillPassive := waited_passive passive gap
  rw [waited] at stillPassive ⊢
  rw [step_eq stillPassive (.unread running refused)]
  rfl

/-- Without the check, the cycle in which a machine strays succeeds, and the next one finds no word
to read, whatever happens between the two. -/
theorem step_astray (passive : machine.Passive) (executing : machine.Executes (.jumpFrom base))
    (outside : ¬(0x200 ≤ machine.core.target base ∧ machine.core.target base ≤ 0xFFE)) :
    machine.unchecked.step.result = .ok () ∧
      machine.unchecked.step.state.core.registers.pc = machine.core.target base % 4096 ∧
      ∀ gap, (machine.unchecked.step.state.waited gap).step.result = .error
        (.trap ⟨.outOfBounds (machine.core.target base % 4096) .notCounter,
          some (machine.core.target base % 4096)⟩) := by
  have uncheckedPassive : machine.unchecked.Passive := passive
  obtain ⟨running, op, read, known⟩ := executes_iff.mp executing
  have executed : (Instruction.jumpFrom base).execute machine.dialect.unchecked
      (machine.core.fetched op) =
        ((machine.core.fetched op).setPc (machine.core.target base % 4096), none) :=
    Core.jumpFrom_unchecked machine.dialect
  have core := step_core uncheckedPassive running read known executed
  have counter : machine.unchecked.step.state.core.registers.pc = machine.core.target base % 4096 := by
    rw [core]
    rfl
  have stillRunning : machine.unchecked.step.state.core.registers.halted = false := by
    rw [core]
    exact running
  refine ⟨?_, counter, fun gap => ?_⟩
  · rw [step_eq uncheckedPassive (.done running read known executed)]
  · have beyond := Core.target_astray outside
    rw [← counter] at beyond ⊢
    exact waited_unread (uncheckedPassive.of_subscribers (step_subscribers uncheckedPassive))
      stillRunning beyond gap

theorem logged_unchecked (machine : Machine) (listing : Listing) :
    machine.unchecked.logged listing = (machine.logged listing).unchecked := by
  unfold logged
  by_cases tracing : machine.tracing = true
  · have same : machine.unchecked.tracing = true := tracing
    rw [if_pos tracing, if_pos same]
    rfl
  · have same : ¬machine.unchecked.tracing = true := tracing
    rw [if_neg tracing, if_neg same]

theorem completed_unchecked (machine : Machine) (core : Core) (listing : Listing) :
    machine.unchecked.completed core listing = (machine.completed core listing).unchecked :=
  (machine.settled core listing).logged_unchecked listing

theorem Cycle.unchecked {outcome : Outcome Machine Unit} (cycle : machine.Cycle outcome)
    (inside : ∀ base, machine.Executes (.jumpFrom base) →
      0x200 ≤ machine.core.target base ∧ machine.core.target base ≤ 0xFFE) :
    machine.unchecked.Cycle (outcome.onState Machine.unchecked) := by
  cases cycle with
  | idle halted => exact .idle halted
  | unread running refused => exact .unread running refused
  | unknown running read foreign => exact .unknown running read foreign
  | @failed op instruction core failure running read known executed =>
      have same : instruction.execute machine.unchecked.dialect (machine.core.fetched op) = _ :=
        Instruction.execute_unchecked fun base jumping =>
          inside base (executes_iff.mpr ⟨running, op, read, jumping ▸ known⟩)
      exact .failed running read known (same.trans executed)
  | @done op instruction core running read known executed =>
      have same : instruction.execute machine.unchecked.dialect (machine.core.fetched op) = _ :=
        Instruction.execute_unchecked fun base jumping =>
          inside base (executes_iff.mpr ⟨running, op, read, jumping ▸ known⟩)
      have ended : machine.unchecked.Cycle _ := .done running read known (same.trans executed)
      unfold completedNotes at ended
      rw [completed_unchecked] at ended
      exact ended

theorem obey_unchecked (regular : machine.Regular) (checking : machine.dialect.checkedJump = true)
    {command : Command} (unframed : command ≠ .frame)
    (straight : command = .step → ∀ base, ¬machine.Strays base) :
    machine.unchecked.obey command = (machine.obey command).onState unchecked := by
  have passive := regular.passive
  have uncheckedPassive : machine.unchecked.Passive := passive
  cases command with
  | load rom =>
      rw [obey, obey, load_eq passive rom.property, load_eq uncheckedPassive rom.property]
      rfl
  | reset =>
      rw [obey, obey, reset_eq passive regular.accepted, reset_eq uncheckedPassive regular.accepted]
      rfl
  | input key pressed =>
      rw [obey, obey]
      cases taken : machine.core.keypad.set key pressed with
      | error failure =>
          have same : machine.unchecked.core.keypad.set key pressed = .error failure := taken
          rw [input_of_error taken, input_of_error same]
          rfl
      | ok keypad =>
          have same : machine.unchecked.core.keypad.set key pressed = .ok keypad := taken
          rw [input_of_ok taken, input_of_ok same]
          rfl
  | step =>
      refine step_eq uncheckedPassive ((step_cycle passive).unchecked fun base executing => ?_)
      refine Decidable.byContradiction fun outside => ?_
      exact straight rfl base ((strays_iff passive checking).mpr ⟨executing, outside⟩)
  | tick =>
      rw [obey, obey, tick_eq passive, tick_eq uncheckedPassive]
      rfl
  | frame => exact absurd rfl unframed
  | _ => rfl

/-- No cycle of a run strays. Frames are taken apart into their cycles and ticks. -/
def KeepsInside (machine : Machine) (commands : List Command) : Prop :=
  (∀ command ∈ commands, command ≠ .frame) ∧
    ∀ before after, commands = before ++ .step :: after → ∀ base, ¬(machine.run before).Strays base

theorem keepsInside_cons {command : Command} {rest : List Command} :
    machine.KeepsInside (command :: rest) ↔
      (command ≠ .frame ∧ (command = .step → ∀ base, ¬machine.Strays base)) ∧
        (machine.obey command).state.KeepsInside rest := by
  constructor
  · rintro ⟨unframed, straight⟩
    refine ⟨⟨unframed command List.mem_cons_self, ?_⟩, ?_, ?_⟩
    · rintro rfl
      exact straight [] rest rfl
    · exact fun other member => unframed other (List.mem_cons_of_mem command member)
    · rintro before after rfl
      exact straight (command :: before) after rfl
  · rintro ⟨⟨unframed, straight⟩, laterUnframed, laterStraight⟩
    refine ⟨List.forall_mem_cons.mpr ⟨unframed, laterUnframed⟩, ?_⟩
    intro before after split
    cases before with
    | nil => exact straight (List.cons.inj split).1
    | cons first before =>
        obtain ⟨rfl, same⟩ := List.cons.inj split
        exact laterStraight before after same

theorem dialect_kept (dialect : Dialect) : Kept fun machine => machine.dialect = dialect where
  cycle _ same cycle := by
    cases cycle with
    | done => exact (completed_dialect _ _ _).trans same
    | _ => exact same
  tick same := same
  restart _ _ same := same
  halt same := same
  input _ same := same
  aside _ _ _ _ same _ := same

/-- By induction on the commands: each has the same outcome on both machines, but for the dialect. -/
theorem outcomes_unchecked (regular : machine.Regular)
    (checking : machine.dialect.checkedJump = true) {commands : List Command}
    (keeps : machine.KeepsInside commands) :
    machine.unchecked.outcomes commands = (machine.outcomes commands).map (·.onState unchecked) ∧
      machine.unchecked.run commands = (machine.run commands).unchecked := by
  induction commands generalizing machine with
  | nil => exact ⟨rfl, rfl⟩
  | cons command rest ih =>
      obtain ⟨⟨unframed, straight⟩, later⟩ := keepsInside_cons.mp keeps
      have first := obey_unchecked regular checking unframed straight
      have dialect := (dialect_kept machine.dialect).obey regular rfl command
      obtain ⟨outcomes, run⟩ := ih (regular_kept.obey regular regular command)
        (dialect ▸ checking) later
      refine ⟨?_, ?_⟩
      · rw [Machine.outcomes, first, Machine.outcomes, List.map_cons, ← outcomes]
        rfl
      · rw [Machine.run, first, Machine.run, ← run]
        rfl

/-- Where one machine refuses a computed jump, the other one takes it and then reads nothing more. -/
structure PartAt (checked unchecked : Machine) (base : Address) : Prop where
  refused : checked.step.result = .error
    (.trap ⟨.outOfBounds (checked.core.target base) .notTarget, some checked.core.registers.pc⟩)
  taken : unchecked.step.result = .ok ()
  counter : unchecked.step.state.core.registers.pc = checked.core.target base % 4096
  unread : ∀ gap, (unchecked.step.state.waited gap).step.result = .error
    (.trap ⟨.outOfBounds (checked.core.target base % 4096) .notCounter,
      some (checked.core.target base % 4096)⟩)

/-- Two machines that differ in the check of computed jumps answer alike, make the same known and
stay in the same states, until the first jump that the check refuses. -/
theorem Reached.unchecked_agrees (reached : machine.Reached)
    (checking : machine.dialect.checkedJump = true) {commands : List Command}
    (keeps : machine.KeepsInside commands) :
    machine.unchecked.outcomes commands = (machine.outcomes commands).map (·.onState unchecked) ∧
      ∀ base, (machine.run commands).Strays base →
        PartAt (machine.run commands) (machine.unchecked.run commands) base := by
  obtain ⟨outcomes, run⟩ := outcomes_unchecked reached.regular checking keeps
  refine ⟨outcomes, fun base strays => ?_⟩
  have passive := (reached.run commands).regular.passive
  have dialect := (dialect_kept machine.dialect).run reached.regular rfl commands
  have stillChecking : (machine.run commands).dialect.checkedJump = true := dialect ▸ checking
  obtain ⟨executing, outside⟩ := (strays_iff passive stillChecking).mp strays
  obtain ⟨taken, counter, unread⟩ := step_astray passive executing outside
  rw [run]
  exact ⟨step_refused passive stillChecking executing outside, taken, counter, unread⟩

def overshoot : { rom : Rom // rom.Accepted } :=
  ⟨⟨"", #[0x60, 0xFF, 0xBF, 0x81]⟩, Rom.accepted_of_size (by decide) (by decide)⟩

theorem Standing.overshoots (start : Standing overshoot.val.data 0 [] machine)
    (checking : machine.dialect.checkedJump = true) :
    machine.KeepsInside [.step] ∧ (machine.run [.step]).Strays 0xF81 := by
  have begun := start.executing (.load 0 0xFF) (by decide) (by decide)
  obtain ⟨next, value⟩ := start.load 0 0xFF (by decide) (by decide)
  have target : (machine.obey .step).state.core.target 0xF81 = 0x1080 := by
    rw [Core.target, value]
    rfl
  have dialect := (dialect_kept machine.dialect).obey start.reached.regular rfl .step
  refine ⟨keepsInside_cons.mpr ⟨⟨by rintro ⟨⟩, fun _ base strays => ?_⟩, by rintro _ ⟨⟩, ?_⟩, ?_⟩
  · cases begun.unique strays.1
  · intro before after split
    cases before <;> cases split
  · refine (strays_iff next.reached.regular.passive (dialect ▸ checking)).mpr
      ⟨next.executing (.jumpFrom 0xF81) (by decide) (by decide), ?_⟩
    omega

/-- With the check the jump is refused, and without it ends at `0x080`. -/
theorem overshoot_parts :
    (holding overshoot).unchecked.outcomes [.step] =
        ((holding overshoot).outcomes [.step]).map (·.onState unchecked) ∧
      PartAt ((holding overshoot).run [.step]) ((holding overshoot).unchecked.run [.step]) 0xF81 := by
  have start := holding_standing overshoot
  have checking : (holding overshoot).dialect.checkedJump = true := by
    rw [holding_eq]
    rfl
  obtain ⟨keeps, strays⟩ := start.overshoots checking
  obtain ⟨agree, part⟩ := start.reached.unchecked_agrees checking keeps
  exact ⟨agree, part 0xF81 strays⟩

end Machine

end Chip8
