import Chip8.Proofs.Machine.Counter
import Chip8.Proofs.Machine.Driving

/-! A key is down if the last input for it said so. A program that waits for a key executes the same
instruction over and over while none is down, and takes the least one of those that are down at the
first cycle at which there is any. Between cycles the timers may be ticked and keys may come and go.
-/

namespace Chip8

namespace Command

/-- After such a command it is known of a key whether it is down, whatever was before. -/
def Decides (key : Fin 16) : Command → Prop
  | .load _ | .reset => True
  | .input index _ => index = key.val
  | _ => False

/-- Commands that may come while a program waits. -/
def Waits : Command → Prop
  | .step | .tick => True
  | .input index _ => 0 ≤ index ∧ index < 16
  | _ => False

def isStep : Command → Bool
  | .step => true
  | _ => false

end Command

/-- The last command that decided about a key was an input that it is down. -/
def HeldDown (commands : List Command) (key : Fin 16) : Prop :=
  ∃ before after, commands = before ++ .input key.val true :: after ∧
    ∀ command ∈ after, ¬command.Decides key

variable {key : Fin 16}

theorem not_heldDown_nil : ¬HeldDown [] key := by
  rintro ⟨before, after, nothing, _⟩
  simp at nothing

theorem heldDown_cons {command : Command} {rest : List Command} :
    HeldDown (command :: rest) key ↔
      HeldDown rest key ∨
        command = .input key.val true ∧ ∀ later ∈ rest, ¬later.Decides key := by
  constructor
  · rintro ⟨before, after, split, undecided⟩
    cases before with
    | nil =>
        cases split
        exact .inr ⟨rfl, undecided⟩
    | cons first before =>
        cases split
        exact .inl ⟨before, after, rfl, undecided⟩
  · rintro (⟨before, after, rfl, undecided⟩ | ⟨rfl, undecided⟩)
    · exact ⟨command :: before, after, rfl, undecided⟩
    · exact ⟨[], rest, rfl, undecided⟩

theorem HeldDown.mem {commands : List Command} (held : HeldDown commands key) :
    .input key.val true ∈ commands := by
  obtain ⟨before, after, rfl, _⟩ := held
  simp

theorem Keypad.isPressed_released (key : Fin 16) : released.isPressed key = false :=
  Vector.getElem_replicate key.isLt

theorem Keypad.firstPressed_eq_some_iff {keypad : Keypad} :
    keypad.firstPressed = some key ↔
      keypad.isPressed key = true ∧ ∀ other < key, keypad.isPressed other = false := by
  rw [firstPressed, List.find?_eq_some_iff_getElem]
  simp only [List.getElem_finRange, List.length_finRange]
  constructor
  · rintro ⟨pressed, i, bound, rfl, others⟩
    refine ⟨pressed, fun other below => ?_⟩
    simpa using others other.val below
  · rintro ⟨pressed, others⟩
    refine ⟨pressed, key.val, key.isLt, rfl, fun j below => ?_⟩
    simpa using others ⟨j, by omega⟩ below

namespace Machine

variable {machine : Machine} {commands : List Command} {x : Reg}

theorem obey_isPressed (regular : machine.Regular) (command : Command) :
    (machine.obey command).state.core.keypad.isPressed key = true ↔
      command = .input key.val true ∨
        ¬command.Decides key ∧ machine.core.keypad.isPressed key = true := by
  cases command with
  | load rom =>
      have released : (machine.inserted rom.val).restarted.core.keypad.isPressed key = false :=
        Keypad.isPressed_released key
      rw [obey, load_eq regular.passive rom.property]
      simp [Command.Decides, released]
  | reset =>
      have released : machine.restarted.core.keypad.isPressed key = false :=
        Keypad.isPressed_released key
      rw [obey, reset_eq regular.passive regular.accepted]
      simp [Command.Decides, released]
  | input index pressed =>
      simp only [obey, Command.input.injEq, Command.Decides]
      cases taken : machine.core.keypad.set index pressed with
      | error failure =>
          have unknown : index ≠ key.val := by
            rintro rfl
            rw [Keypad.set_index] at taken
            cases taken
          rw [input_of_error taken]
          simp [unknown]
      | ok keypad =>
          rw [input_of_ok taken]
          change keypad.isPressed key = true ↔ _
          rw [Keypad.isPressed_set taken]
          split
          · rename_i same
            simp [← same]
          · rename_i other
            simp [Ne.symm other]
  | step => simp [obey, Command.Decides, (step_cycle regular.passive).keypad]
  | tick =>
      rw [obey, tick_eq regular.passive]
      simp [Command.Decides, ticked, synced, withCore]
  | frame => simp [obey, Command.Decides, (frame_sameSetup regular.passive).2]
  | _ => simp [obey, Command.Decides, subscribe, halt, setRegisters]

/-- After a run a key is down if the run has left it so, or if it was down before and the run did not
decide about it. -/
theorem run_isPressed (regular : machine.Regular) (commands : List Command) :
    (machine.run commands).core.keypad.isPressed key = true ↔
      HeldDown commands key ∨
        (∀ command ∈ commands, ¬command.Decides key) ∧
          machine.core.keypad.isPressed key = true := by
  induction commands generalizing machine with
  | nil => simp [run, not_heldDown_nil]
  | cons command rest ih =>
      rw [run, ih (regular_kept.obey regular regular command), obey_isPressed regular, heldDown_cons,
        List.forall_mem_cons]
      grind

/-- Of all that a program can see of itself, only the count of cycles has changed, by so many. -/
structure StaysPut (machine after : Machine) (cycles : Nat) : Prop where
  counter : after.core.registers.pc = machine.core.registers.pc
  values : after.core.registers.v = machine.core.registers.v
  index : after.core.registers.i = machine.core.registers.i
  memory : after.core.memory = machine.core.memory
  stack : after.core.stack = machine.core.stack
  screen : after.core.screen = machine.core.screen
  halted : after.core.registers.halted = machine.core.registers.halted
  cycles : after.core.registers.cycles = machine.core.registers.cycles + cycles

namespace StaysPut

variable {middle after : Machine} {first second : Nat}

theorem refl (machine : Machine) : machine.StaysPut machine 0 :=
  ⟨rfl, rfl, rfl, rfl, rfl, rfl, rfl, rfl⟩

theorem trans (one : machine.StaysPut middle first) (other : middle.StaysPut after second) :
    machine.StaysPut after (first + second) where
  counter := other.counter.trans one.counter
  values := other.values.trans one.values
  index := other.index.trans one.index
  memory := other.memory.trans one.memory
  stack := other.stack.trans one.stack
  screen := other.screen.trans one.screen
  halted := other.halted.trans one.halted
  cycles := by rw [other.cycles, one.cycles, Nat.add_assoc]

theorem fetches {word : Nat} {count : Nat} (put : machine.StaysPut after count)
    (fetched : machine.core.Fetches word) : after.core.Fetches word := by
  unfold Core.Fetches at fetched ⊢
  rwa [put.counter, put.memory]

end StaysPut

theorem step_awaitKey (reached : machine.Reached) (running : machine.core.registers.halted = false)
    (fetched : machine.core.Fetches (Instruction.awaitKey x).word) :
    machine.step.result = .ok () ∧ ∃ op,
      machine.step.state.core = ((machine.core.fetched op).awaitKey x).counted :=
  step_executes reached.regular.passive reached.bounded.core.index.1 running fetched fun _ => id

theorem step_idle (reached : machine.Reached) (running : machine.core.registers.halted = false)
    (fetched : machine.core.Fetches (Instruction.awaitKey x).word)
    (idle : ∀ key, machine.core.keypad.isPressed key = false) :
    machine.step.result = .ok () ∧ machine.StaysPut machine.step.state 1 := by
  obtain ⟨completed, op, core⟩ := step_awaitKey reached running fetched
  have none : (machine.core.fetched op).keypad.firstPressed = none :=
    Keypad.firstPressed_eq_none_iff.mpr idle
  have repeated : (machine.core.fetched op).awaitKey x =
      (machine.core.fetched op).setPc ((machine.core.fetched op).registers.pc - 2) := by
    simp only [Core.awaitKey, none]
  rw [repeated] at core
  refine ⟨completed, ?_, ?_, ?_, ?_, ?_, ?_, ?_, ?_⟩ <;> rw [core]
  · exact Int.add_sub_cancel _ _
  all_goals rfl

/-- A cycle has taken a key: the program goes on with it in a register. -/
structure Takes (x : Reg) (key : Fin 16) (machine : Machine) (outcome : Outcome Machine Unit) :
    Prop where
  succeeded : outcome.result = .ok ()
  value : (outcome.state.core.v x).toNat = key.val
  counter : outcome.state.core.registers.pc = machine.core.registers.pc + 2
  others : ∀ k, k ≠ x → outcome.state.core.v k = machine.core.v k
  index : outcome.state.core.registers.i = machine.core.registers.i

theorem step_takes (reached : machine.Reached) (running : machine.core.registers.halted = false)
    (fetched : machine.core.Fetches (Instruction.awaitKey x).word)
    (least : machine.core.keypad.firstPressed = some key) : machine.Takes x key machine.step := by
  obtain ⟨completed, op, core⟩ := step_awaitKey reached running fetched
  have first : (machine.core.fetched op).keypad.firstPressed = some key := least
  have taken : (machine.core.fetched op).awaitKey x =
      (machine.core.fetched op).setV x (UInt8.ofNat key.val) := by
    simp only [Core.awaitKey, first]
  have value (k : Reg) : machine.step.state.core.v k =
      if k = x then UInt8.ofNat key.val else machine.core.v k := by
    rw [core, taken]
    exact (machine.core.fetched op).v_setV x _ k
  refine ⟨completed, ?_, ?_, ?_, ?_⟩
  · rw [value, if_pos rfl, UInt8.toNat_ofNat']
    omega
  · rw [core, taken]
    rfl
  · intro k apart
    rw [value, if_neg apart]
  · rw [core, taken]
    rfl

theorem obey_staysPut (reached : machine.Reached) (running : machine.core.registers.halted = false)
    (fetched : machine.core.Fetches (Instruction.awaitKey x).word) {command : Command}
    (waits : command.Waits)
    (idle : command = .step → ∀ key, machine.core.keypad.isPressed key = false) :
    machine.StaysPut (machine.obey command).state (if command.isStep then 1 else 0) := by
  cases command with
  | step => exact (step_idle reached running fetched (idle rfl)).2
  | tick =>
      rw [obey, tick_eq reached.regular.passive]
      exact ⟨rfl, rfl, rfl, rfl, rfl, rfl, rfl, rfl⟩
  | input index pressed =>
      obtain ⟨_, keypad, input⟩ := machine.input_leaves index pressed
      rw [obey, input]
      exact ⟨rfl, rfl, rfl, rfl, rfl, rfl, rfl, rfl⟩
  | _ => exact waits.elim

/-- No key is down whenever a cycle begins. -/
def Idles (machine : Machine) (commands : List Command) : Prop :=
  ∀ before after, commands = before ++ .step :: after →
    ∀ key, (machine.run before).core.keypad.isPressed key = false

theorem Idles.of_append {first second : List Command} (idles : machine.Idles (first ++ second)) :
    machine.Idles first := by
  rintro before after rfl
  exact idles before (after ++ second) (by simp)

theorem run_staysPut (reached : machine.Reached) (running : machine.core.registers.halted = false)
    (fetched : machine.core.Fetches (Instruction.awaitKey x).word)
    (waits : ∀ command ∈ commands, command.Waits) (idles : machine.Idles commands) :
    machine.StaysPut (machine.run commands) (commands.countP Command.isStep) := by
  induction commands generalizing machine with
  | nil => exact .refl machine
  | cons command rest ih =>
      obtain ⟨waitsFirst, waitsRest⟩ := List.forall_mem_cons.mp waits
      have first := obey_staysPut reached running fetched waitsFirst (by
        rintro rfl
        exact idles [] rest rfl)
      have later := ih (reached.obey command) (first.halted.trans running) (first.fetches fetched)
        waitsRest (by
          rintro before after rfl
          exact idles (command :: before) after rfl)
      rw [List.countP_cons, Nat.add_comm]
      exact first.trans later

/-- How a program waits in the course of commands at whose cycles no key is down, and what a cycle
does then. -/
structure WaitsForKey (x : Reg) (machine : Machine) (commands : List Command) : Prop where
  completed : ∀ before after, commands = before ++ .step :: after →
    (machine.run before).step.result = .ok ()
  still : ∀ before after, commands = before ++ after →
    machine.StaysPut (machine.run before) (before.countP Command.isStep)
  taken : (∃ held, (machine.run commands).core.keypad.isPressed held = true) →
    ∃ key, (machine.run commands).core.keypad.isPressed key = true ∧
      (∀ other < key, (machine.run commands).core.keypad.isPressed other = false) ∧
      (machine.run commands).Takes x key (machine.run commands).step
  /-- A key that went down and came up again, and did not go down after that, is not taken. -/
  unseen : ∀ key before between after,
    commands = before ++ .input key.val true :: (between ++ .input key.val false :: after) →
    .input key.val true ∉ after →
    ¬(machine.run commands).Takes x key (machine.run commands).step

theorem isPressed_of_released (regular : machine.Regular) {before after : List Command}
    (unpressed : .input key.val true ∉ after) :
    (machine.run (before ++ .input key.val false :: after)).core.keypad.isPressed key = false := by
  rw [← Bool.not_eq_true, run_append, run_isPressed (regular.run before), heldDown_cons]
  simp [Command.Decides, mt HeldDown.mem unpressed]

theorem isPressed_of_takes (reached : machine.Reached)
    (running : machine.core.registers.halted = false)
    (fetched : machine.core.Fetches (Instruction.awaitKey x).word)
    (takes : machine.Takes x key machine.step) : machine.core.keypad.isPressed key = true := by
  cases first : machine.core.keypad.firstPressed with
  | none =>
      have idle := (step_idle reached running fetched (Keypad.firstPressed_eq_none_iff.mp first)).2
      have moved := takes.counter
      rw [idle.counter] at moved
      omega
  | some least =>
      have same : key = least := by
        apply Fin.ext
        rw [← takes.value, (step_takes reached running fetched first).value]
      rw [same]
      exact Keypad.isPressed_of_firstPressed first

theorem Reached.waitsForKey (reached : machine.Reached)
    (running : machine.core.registers.halted = false)
    (fetched : machine.core.Fetches (Instruction.awaitKey x).word)
    (waits : ∀ command ∈ commands, command.Waits) (idles : machine.Idles commands) :
    WaitsForKey x machine commands := by
  have still (before after : List Command) (split : commands = before ++ after) :
      machine.StaysPut (machine.run before) (before.countP Command.isStep) := by
    subst split
    exact run_staysPut reached running fetched (fun command member => waits command (by simp [member]))
      idles.of_append
  have put := run_staysPut reached running fetched waits idles
  have there := put.fetches fetched
  have awake := put.halted.trans running
  refine ⟨?_, still, ?_, ?_⟩
  · intro before after split
    have place := still before _ split
    exact (step_idle (reached.run before) (place.halted.trans running) (place.fetches fetched)
      (idles before after split)).1
  · rintro ⟨held, pressed⟩
    cases first : (machine.run commands).core.keypad.firstPressed with
    | none => simp [Keypad.firstPressed_eq_none_iff.mp first] at pressed
    | some key =>
        obtain ⟨down, others⟩ := Keypad.firstPressed_eq_some_iff.mp first
        exact ⟨key, down, others, step_takes (reached.run commands) awake there first⟩
  · intro key before between after split unpressed takes
    have down := isPressed_of_takes (reached.run commands) awake there takes
    have released : commands =
        (before ++ .input key.val true :: between) ++ .input key.val false :: after := by
      simp [split]
    rw [released, isPressed_of_released reached.regular unpressed] at down
    cases down

/-- Wherever a run has led to a wait for a key, the program waits until a key is down when a cycle
begins, and takes the least one. At every moment of a run the keys that are down are those that the
last input said are down. -/
theorem run_waitsForKey (dialect : Dialect) (random : RandomSource) (cyclesPerFrame : Int)
    (history : List Command) {x : Reg} {commands : List Command}
    (running :
      ((create dialect random cyclesPerFrame).run history).core.registers.halted = false)
    (fetched : ((create dialect random cyclesPerFrame).run history).core.Fetches
      (Instruction.awaitKey x).word)
    (waits : ∀ command ∈ commands, command.Waits)
    (idles : ((create dialect random cyclesPerFrame).run history).Idles commands) :
    WaitsForKey x ((create dialect random cyclesPerFrame).run history) commands ∧
      ∀ moment key, ((create dialect random cyclesPerFrame).run moment).core.keypad.isPressed key =
        true ↔ HeldDown moment key := by
  have reached : ((create dialect random cyclesPerFrame).run history).Reached := ⟨_, _, _, _, rfl⟩
  refine ⟨reached.waitsForKey running fetched waits idles, fun moment key => ?_⟩
  have up : (create dialect random cyclesPerFrame).core.keypad.isPressed key = false :=
    Keypad.isPressed_released key
  rw [run_isPressed (create_regular dialect random cyclesPerFrame), up]
  simp

def doorbell : { rom : Rom // rom.Accepted } :=
  ⟨⟨"", #[0xF5, 0x0A]⟩, Rom.accepted_of_size (by decide) (by decide)⟩

/-- After a cycle one key is pressed and released, and then another one is pressed. -/
def ringing : List Command := [.step, .input 7 true, .input 7 false, .tick, .input 9 true]

theorem doorbell_waitsForKey :
    ((holding doorbell).run ringing).Takes 5 9 ((holding doorbell).run ringing).step ∧
      ¬((holding doorbell).run ringing).Takes 5 7 ((holding doorbell).run ringing).step := by
  have start := holding_standing doorbell
  have regular := start.reached.regular
  have fetched : (holding doorbell).core.Fetches (Instruction.awaitKey 5).word :=
    Core.fetches_holding start.memory (by decide) start.counter
  have silent (key : Fin 16) : (holding doorbell).core.keypad.isPressed key = false := by
    rw [holding_eq]
    exact Keypad.isPressed_released key
  have waits : ∀ command ∈ ringing, command.Waits := by simp [ringing, Command.Waits]
  have idles : (holding doorbell).Idles ringing := by
    intro before after split key
    cases before with
    | nil => exact silent key
    | cons first before =>
        have later : .step ∈ ringing.tail := by simp [split]
        simp [ringing] at later
  have waiting : WaitsForKey 5 (holding doorbell) ringing :=
    (run_waitsForKey .standard ⟨fun _ => 0, 0⟩ 10 [.load doorbell] start.running fetched waits
      idles).1
  have unpressed : Command.input (7 : Reg).val true ∉ [.tick, .input 9 true] := by
    simp only [List.mem_cons, List.not_mem_nil, or_false, reduceCtorEq, false_or,
      Command.input.injEq, and_true]
    decide
  have unseen := waiting.unseen 7 [.step] [] _ rfl unpressed
  have down : ((holding doorbell).run ringing).core.keypad.isPressed 9 = true :=
    (run_isPressed regular ringing).mpr (.inl ⟨ringing.dropLast, [], rfl, by simp⟩)
  obtain ⟨key, pressed, _, takes⟩ := waiting.taken ⟨9, down⟩
  have held := (run_isPressed regular ringing).mp pressed
  rw [silent] at held
  have member : .input key.val true ∈ ringing := by simpa using held.imp_left HeldDown.mem
  have named : (key.val : Int) = 7 ∨ (key.val : Int) = 9 := by simpa [ringing] using member
  rcases named with seven | nine
  · cases (by omega : key = 7)
    exact absurd takes unseen
  · cases (by omega : key = 9)
    exact ⟨takes, unseen⟩

end Machine

end Chip8
