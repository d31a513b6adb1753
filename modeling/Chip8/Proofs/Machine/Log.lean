import Chip8.Proofs.Instruction.Assembler
import Chip8.Proofs.Machine.Announcements
import Chip8.Proofs.Text.HexNumber
import Mathlib.Data.List.DropRight

namespace Chip8

namespace TraceLog

def pushAll (log : TraceLog) (lines : List String) : TraceLog := lines.foldl push log

theorem newestFirst_pushAll {log : TraceLog} (within : log.newestFirst.length ≤ capacity)
    (lines : List String) :
    (log.pushAll lines).newestFirst = (lines.reverse ++ log.newestFirst).take capacity := by
  induction lines generalizing log with
  | nil => exact (List.take_of_length_le within).symm
  | cons line rest ih =>
      have stillWithin : (log.push line).newestFirst.length ≤ capacity := List.length_take_le _ _
      have later : ((log.push line).pushAll rest).newestFirst = _ := ih stillWithin
      change ((log.push line).pushAll rest).newestFirst = _
      rw [later, push, List.reverse_cons, List.append_assoc, List.singleton_append, List.take_append,
        List.take_append, List.take_take, Nat.min_eq_left (Nat.sub_le _ _)]

theorem toList_pushAll_empty (lines : List String) :
    (empty.pushAll lines).toList = lines.rtake capacity := by
  have left : (empty.pushAll lines).newestFirst = _ := newestFirst_pushAll (Nat.zero_le _) lines
  rw [toList, left, empty, List.append_nil, List.rtake_eq_reverse_take_reverse]

end TraceLog

def Effect.record? : Effect → Option Journal.Record
  | .recorded record => some record
  | .notified .. => none

def debugRecords (effects : List Effect) : List Journal.Record :=
  (effects.filterMap Effect.record?).filter fun record => record.level == .debug

theorem debugRecords_append (first second : List Effect) :
    debugRecords (first ++ second) = debugRecords first ++ debugRecords second := by
  rw [debugRecords, List.filterMap_append, List.filter_append]
  rfl

namespace Machine

open Numeral (Shows)

variable (machine : Machine)

/-- The lines that the next cycle produces: one, if it succeeds while the log is kept. It tells of the
instruction, and of the machine as it is after it. -/
def stepLines : List String :=
  if machine.tracing && machine.succeeds then
    machine.step.state.lastInstruction.toList.map machine.step.state.traceLine
  else []

def linesOf (command : Command) : List String := (machine.begins command).flatMap stepLines

def lines (machine : Machine) : List Command → List String
  | [] => []
  | command :: rest => machine.linesOf command ++ (machine.obey command).state.lines rest

variable {machine} {commands : List Command}

theorem debugRecords_notes (machine : Machine) (event : Event) :
    debugRecords (machine.notes event) = [] := by
  have none : (machine.notes event).filterMap Effect.record? = [] := by
    rw [notes, List.filterMap_map]
    exact List.filterMap_eq_nil_iff.mpr fun _ _ => rfl
  rw [debugRecords, none, List.filter_nil]

theorem debugRecords_toneNotes (machine : Machine) : debugRecords machine.toneNotes = [] := by
  unfold toneNotes
  split
  · rfl
  · exact debugRecords_notes machine _

theorem stepLines_of_untraced (untraced : machine.tracing = false) : machine.stepLines = [] := by
  simp [stepLines, untraced]

theorem stepLines_of_halted (halted : machine.core.registers.halted = true) :
    machine.stepLines = [] := by
  simp [stepLines, succeeds, halted]

theorem stepLines_of_error {failure : Failure} (failed : machine.step.result = .error failure) :
    machine.stepLines = [] := by
  simp [stepLines, succeeds, failed]

/-- Lines were added to the log, and nothing else became of it; the journal has the same lines. -/
structure Writes (machine : Machine) (outcome : Outcome Machine Unit) (lines : List String) :
    Prop where
  log : outcome.state.traceLog = machine.traceLog.pushAll lines
  recorded : debugRecords outcome.effects = lines.map Journal.debug

theorem Writes.append {first rest : Outcome Machine Unit} {lines more : List String}
    (one : machine.Writes first lines) (other : first.state.Writes rest more) :
    machine.Writes { rest with effects := first.effects ++ rest.effects } (lines ++ more) where
  log := by
    rw [other.log, one.log, TraceLog.pushAll, TraceLog.pushAll, ← List.foldl_append]
    rfl
  recorded := by rw [debugRecords_append, one.recorded, other.recorded, List.map_append]

theorem traceLine_completed (machine : Machine) (core : Core) (listing other : Listing) :
    (machine.completed core listing).traceLine other =
      (machine.settled core listing).traceLine other := by
  simp only [traceLine, completed, logged_core]

theorem tracing_settled (machine : Machine) (core : Core) (listing : Listing) :
    (machine.settled core listing).tracing = machine.tracing := rfl

theorem completed_traceLog (machine : Machine) (core : Core) (listing : Listing) :
    (machine.completed core listing).traceLog = machine.traceLog.pushAll
      (if machine.tracing then [(machine.completed core listing).traceLine listing] else []) := by
  rw [traceLine_completed, completed, logged, tracing_settled]
  split <;> rfl

theorem debugRecords_completedNotes (machine : Machine) (core : Core) (listing : Listing) :
    debugRecords (machine.completedNotes core listing) =
      (if machine.tracing then [(machine.completed core listing).traceLine listing] else []).map
        Journal.debug := by
  have kept : debugRecords ((machine.settled core listing).logNotes listing) =
      (if machine.tracing then [(machine.completed core listing).traceLine listing] else []).map
        Journal.debug := by
    rw [traceLine_completed, logNotes, tracing_settled]
    split <;> rfl
  simp only [completedNotes, debugRecords_append, debugRecords_notes, debugRecords_toneNotes, kept,
    List.nil_append, List.append_nil]

theorem stepLines_of_ok {listing : Listing} (running : machine.core.registers.halted = false)
    (completed : machine.step.result = .ok ())
    (last : machine.step.state.lastInstruction = some listing) :
    machine.stepLines = if machine.tracing then [machine.step.state.traceLine listing] else [] := by
  simp [stepLines, succeeds, running, completed, last]

theorem step_writes (passive : machine.Passive) :
    machine.Writes machine.step machine.stepLines := by
  have cycle := step_cycle passive
  generalize stepped : machine.step = outcome at cycle
  cases cycle with
  | idle halted =>
      rw [stepLines_of_halted halted]
      exact ⟨rfl, rfl⟩
  | unread | unknown | failed =>
      have failed : machine.step.result = .error _ := congrArg Outcome.result stepped
      rw [stepLines_of_error failed]
      exact ⟨rfl, debugRecords_notes _ _⟩
  | @done op instruction core running read known executed =>
      have ended : machine.step.result = .ok () := congrArg Outcome.result stepped
      have last : machine.step.state.lastInstruction =
          some (instruction.listing machine.core.registers.pc op) := by
        rw [stepped]
        exact machine.completed_lastInstruction core _
      rw [stepLines_of_ok running ended last, stepped]
      exact ⟨completed_traceLog _ _ _, debugRecords_completedNotes _ _ _⟩

theorem cycles_write (passive : machine.Passive) (count : Nat) :
    machine.Writes (machine.cycles count) ((machine.starts count).flatMap stepLines) := by
  induction count generalizing machine with
  | zero => exact ⟨rfl, rfl⟩
  | succ count ih =>
      have first := step_writes passive
      have later : machine.step.state.Writes _ _ :=
        ih (passive.of_subscribers (step_subscribers passive))
      have both := first.append later
      unfold cycles starts
      cases halted : machine.core.registers.halted with
      | true => exact ⟨rfl, rfl⟩
      | false =>
          rcases stepped : machine.step with ⟨failure | _, after, effects⟩
          · rw [stepped] at first
            simpa using first
          · rw [stepped] at both
            simpa using both

theorem frame_writes (passive : machine.Passive) :
    machine.Writes machine.frame (machine.linesOf .frame) := by
  have cycled : machine.Writes (machine.cycles machine.frameCycles) (machine.linesOf .frame) :=
    cycles_write passive machine.frameCycles
  rcases frame_cases passive rfl with ⟨_, _, frame⟩ | ⟨_, frame⟩ <;> rw [frame]
  · exact cycled
  · refine ⟨cycled.log, ?_⟩
    simp only [debugRecords_append, debugRecords_toneNotes, debugRecords_notes, cycled.recorded,
      List.append_nil]

theorem obey_cleared (regular : machine.Regular) {command : Command}
    (restarts : command.restarts = true) :
    (machine.obey command).state.traceLog = .empty ∧
      debugRecords (machine.obey command).effects = [] := by
  have silent : debugRecords (machine.powerOn.toneNotes ++
      [.recorded (Journal.info "Emulator reset")]) = [] := by
    rw [debugRecords_append, debugRecords_toneNotes]
    rfl
  cases command with
  | load rom =>
      rw [obey, load_eq regular.passive rom.property]
      refine ⟨rfl, ?_⟩
      rw [debugRecords_append, silent]
      rfl
  | reset =>
      rw [obey, reset_eq regular.passive regular.accepted]
      exact ⟨rfl, silent⟩
  | _ => cases restarts

theorem obey_writes (regular : machine.Regular) {command : Command}
    (onward : command.restarts = false) :
    machine.Writes (machine.obey command) (machine.linesOf command) := by
  cases command with
  | load | reset => cases onward
  | step =>
      have single : machine.linesOf .step = machine.stepLines := List.flatMap_singleton ..
      rw [single]
      exact step_writes regular.passive
  | frame => exact frame_writes regular.passive
  | tick =>
      rw [obey, tick_eq regular.passive]
      exact ⟨rfl, debugRecords_toneNotes _⟩
  | input key pressed =>
      obtain ⟨_, keypad, input⟩ := machine.input_leaves key pressed
      rw [obey, input]
      exact ⟨rfl, rfl⟩
  | _ => exact ⟨rfl, rfl⟩

theorem linesOf_restarts {command : Command} (restarts : command.restarts = true) :
    machine.linesOf command = [] := by
  cases command with
  | load | reset => rfl
  | _ => cases restarts

theorem obey_recorded (regular : machine.Regular) (command : Command) :
    debugRecords (machine.obey command).effects =
      (machine.linesOf command).map Journal.debug := by
  cases restarts : command.restarts with
  | false => exact (obey_writes regular restarts).recorded
  | true => rw [linesOf_restarts restarts, (obey_cleared regular restarts).2, List.map_nil]

theorem run_recorded (regular : machine.Regular) (commands : List Command) :
    debugRecords (machine.effects commands) = (machine.lines commands).map Journal.debug := by
  induction commands generalizing machine with
  | nil => rfl
  | cons command rest ih =>
      have later := ih (regular_kept.obey regular regular command)
      rw [effects, lines, debugRecords_append, obey_recorded regular, later, List.map_append]

theorem run_traceLog (regular : machine.Regular)
    (onward : ∀ command ∈ commands, command.restarts = false) :
    (machine.run commands).traceLog = machine.traceLog.pushAll (machine.lines commands) := by
  induction commands generalizing machine with
  | nil => rfl
  | cons command rest ih =>
      obtain ⟨first, others⟩ := List.forall_mem_cons.mp onward
      rw [run, lines, ih (regular_kept.obey regular regular command) others,
        (obey_writes regular first).log, TraceLog.pushAll, TraceLog.pushAll, ← List.foldl_append]
      rfl

/-- A line on an instruction and on the core as it is after it: the address and the word in four digits,
the text, from which the word can be got back, the index in four digits, the depth of the stack in as
many as it takes, and the timers in two. -/
inductive Line (pc : Int) (word : Nat) (text : String) (core : Core) : String → Prop where
  | made {address opcode index depth delay sound : String}
      (addressShown : Shows 4 pc address) (opcodeShown : Shows 4 word opcode)
      (assembled : Assembly.assemble? text = some word)
      (indexShown : Shows 4 core.registers.i index)
      (depthShown : Shows (if core.stack.depth < 16 then 1 else 2) core.stack.depth depth)
      (delayShown : Shows 2 core.timers.delay.toNat delay)
      (soundShown : Shows 2 core.timers.sound.toNat sound) :
      Line pc word text core (address ++ ": opcode: " ++ opcode ++ " | " ++ text ++ " | I: " ++ index ++
        " | SP: " ++ depth ++ " | DT: " ++ delay ++ " | ST: " ++ sound)

/-- Which cycles produce lines, and of what. -/
structure Lists (machine : Machine) : Prop where
  begins : ∀ command, ∀ before ∈ machine.begins command, before.Reached
  completed : machine.tracing = true → machine.core.registers.halted = false →
    machine.step.result = .ok () →
    ∃ op instruction line, machine.core.memory.readOpcode machine.core.registers.pc = .ok op ∧
      Instruction.decode? op = some instruction ∧
      Line machine.core.registers.pc op.word
        (instruction.listing machine.core.registers.pc op).text machine.step.state.core line ∧
      machine.stepLines = [line]
  untraced : machine.tracing = false → machine.stepLines = []
  idle : machine.core.registers.halted = true → machine.stepLines = []
  failed : ∀ failure, machine.step.result = .error failure → machine.stepLines = []
  kept : machine.stepLines = [] → machine.step.state.traceLog = machine.traceLog

theorem shows_four {n : Int} (range : 0 ≤ n ∧ n ≤ 0xFFFF) : Shows 4 n (Numeral.hex 4 n) := by
  obtain ⟨value, rfl⟩ := Int.eq_ofNat_of_zero_le range.1
  exact Numeral.shows_places (by omega)

theorem Bounded.line_traceLine (bounded : machine.Bounded) {listing : Listing} {word : Nat}
    (address : 0 ≤ listing.address ∧ listing.address ≤ 0xFFFF) (opcode : listing.opcode = word)
    (fits : word < 65536) (assembled : Assembly.assemble? listing.text = some word) :
    Line listing.address word listing.text machine.core (machine.traceLine listing) := by
  have depth := Numeral.shows_hex 0 machine.core.stack.depth
  rw [Nat.zero_max, Numeral.length_hexDigits_of_le machine.core.stack.depth_le] at depth
  unfold traceLine
  rw [opcode]
  exact .made (shows_four address) (Numeral.shows_places fits) assembled
    (shows_four bounded.core.index) depth (Numeral.shows_places machine.core.timers.delay.toNat_lt)
    (Numeral.shows_places machine.core.timers.sound.toNat_lt)

theorem Reached.lists (reached : machine.Reached) : machine.Lists where
  begins := reached.begins
  completed tracing running completed := by
    obtain ⟨op, instruction, read, known, last⟩ :=
      step_lists reached.regular.passive running completed
    have after : machine.step.state.Bounded := (reached.obey .step).bounded
    have inside := Memory.readOpcode_inside read
    have address : 0 ≤ machine.core.registers.pc ∧ machine.core.registers.pc ≤ 0xFFFF := by omega
    have line : Line machine.core.registers.pc op.word _ machine.step.state.core _ :=
      after.line_traceLine address rfl op.word_lt (Instruction.assemble?_text _ known)
    refine ⟨op, instruction, _, read, known, line, ?_⟩
    rw [stepLines_of_ok running completed last, if_pos tracing]
  untraced := stepLines_of_untraced
  idle := stepLines_of_halted
  failed _ := stepLines_of_error
  kept none := by
    rw [(step_writes reached.regular.passive).log, none]
    rfl

/-- Whatever a run was, the journal has the lines that it produced, and the log has the last of those
since the beginning or the last restart. -/
theorem run_keepsLog (dialect : Dialect) (random : RandomSource) (cyclesPerFrame : Int) :
    (∀ history, ((create dialect random cyclesPerFrame).run history).Lists ∧
      debugRecords ((create dialect random cyclesPerFrame).effects history) =
        ((create dialect random cyclesPerFrame).lines history).map Journal.debug) ∧
      ∀ before after, (∀ last ∈ before.getLast?, last.restarts = true) →
        (∀ command ∈ after, command.restarts = false) →
        ((create dialect random cyclesPerFrame).run (before ++ after)).traceLog.toList =
          (((create dialect random cyclesPerFrame).run before).lines after).rtake 2048 := by
  have regular := create_regular dialect random cyclesPerFrame
  constructor
  · intro history
    have reached : ((create dialect random cyclesPerFrame).run history).Reached := ⟨_, _, _, _, rfl⟩
    exact ⟨reached.lists, run_recorded regular history⟩
  · intro before after fresh onward
    have cleared : ((create dialect random cyclesPerFrame).run before).traceLog = .empty := by
      rcases List.eq_nil_or_concat before with rfl | ⟨earlier, last, rfl⟩
      · rfl
      · rw [List.concat_eq_append, run_append]
        exact (obey_cleared (regular.run earlier) (fresh last (by simp))).1
    rw [run_append, run_traceLog (regular.run before) onward, cleared,
      TraceLog.toList_pushAll_empty]
    rfl

end Machine

end Chip8
