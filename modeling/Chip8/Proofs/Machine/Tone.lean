import Chip8.Frontend.Session
import Chip8.Proofs.Machine.Standing

/-! What subscribers are told about the tone, and what a beeper makes of it. The machine keeps note of
what it told last, and that note says at all times whether the sound timer runs. So what it tells
alternates, and the mixer is asked to play and to stop by turns. -/

namespace Chip8

def Effect.tone? : Effect → Option Bool
  | .notified _ (.sound active) => some active
  | _ => none

def tones (effects : List Effect) : List Bool := effects.filterMap Effect.tone?

theorem tones_append (first second : List Effect) :
    tones (first ++ second) = tones first ++ tones second :=
  List.filterMap_append

theorem tones_append_recorded (effects : List Effect) (record : Journal.Record) :
    tones (effects ++ [.recorded record]) = tones effects :=
  (tones_append _ _).trans (List.append_nil _)

/-- From `before` on, each value is the opposite of the one before it, and the last one is
`after`. -/
def Turns (before : Bool) : List Bool → Bool → Prop
  | [], after => before = after
  | value :: rest, after => value = !before ∧ Turns value rest after

namespace Turns

variable {before middle after : Bool} {values first second : List Bool}

theorem append (one : Turns before first middle) (other : Turns middle second after) :
    Turns before (first ++ second) after := by
  induction first generalizing before with
  | nil =>
      cases one
      exact other
  | cons value rest ih => exact ⟨one.1, ih one.2⟩

/-- The values in even places are the opposite of what was before, and those in odd places are the
same. -/
theorem getElem (turns : Turns before values after) (k : Nat) (bound : k < values.length) :
    values[k] = (before ^^ k % 2 == 0) := by
  induction values generalizing before k with
  | nil => cases bound
  | cons value rest ih =>
      obtain ⟨rfl, later⟩ := turns
      cases k with
      | zero => cases before <;> rfl
      | succ k =>
          have next := ih later k (Nat.lt_of_succ_lt_succ bound)
          rw [List.getElem_cons_succ, next]
          rcases Nat.mod_two_eq_zero_or_one k with even | odd
          · have place : (k + 1) % 2 = 1 := by omega
            cases before <;> simp [even, place]
          · have place : (k + 1) % 2 = 0 := by omega
            cases before <;> simp [odd, place]

end Turns

namespace Frontend

open Tone

def Output.mixerCall? : Output → Option MixerCall
  | .mixer call => some call
  | _ => none

def mixerCalls (outputs : List Output) : List MixerCall := outputs.filterMap Output.mixerCall?

theorem mixerCalls_append (calls : List MixerCall) (outputs : List Output) :
    mixerCalls (calls.map .mixer ++ outputs) = calls ++ mixerCalls outputs := by
  have given : (calls.map Output.mixer).filterMap Output.mixerCall? = calls := by
    rw [List.filterMap_map]
    exact List.filterMap_some
  rw [mixerCalls, List.filterMap_append, given]
  rfl

theorem turn_calls {beeper : Beeper} {active : Bool} (turned : active = !beeper.playing) :
    (beeper.turn active).2 = [if active then .play else .stop] := by
  cases playing : beeper.playing <;> rw [playing] at turned <;> cases turned <;>
    simp [Beeper.turn, playing]

/-- A beeper that hears the tone turn asks the mixer for each turn, and is then as it heard last. -/
theorem relay_turns {effects : List Effect} {beeper : Beeper} {after : Bool}
    (turns : Turns beeper.playing (tones effects) after) :
    (∃ sounder, (Session.relay (some beeper) effects).1 = some sounder ∧ sounder.playing = after) ∧
      mixerCalls (Session.relay (some beeper) effects).2 =
        (tones effects).map fun active => if active then .play else .stop := by
  induction effects generalizing beeper with
  | nil => exact ⟨⟨beeper, rfl, turns⟩, rfl⟩
  | cons effect rest ih =>
      cases effect with
      | recorded record => exact ih turns
      | notified label event =>
          cases event with
          | sound active =>
              obtain ⟨turned, later⟩ := turns
              have following : Turns (beeper.turn active).1.playing (tones rest) after := later
              obtain ⟨heard, played⟩ := ih following
              refine ⟨heard, ?_⟩
              change mixerCalls ((beeper.turn active).2.map .mixer ++
                .record (Beeper.record active) ::
                  (Session.relay (some (beeper.turn active).1) rest).2) = _
              rw [mixerCalls_append, turn_calls turned]
              exact congrArg (_ :: ·) played
          | _ => exact ih turns

end Frontend

theorem Timers.sounding_eq (timers : Timers) :
    timers.sounding = decide (0 < timers.sound.toNat) := by
  have zero : timers.sound = 0 ↔ timers.sound.toNat = 0 := UInt8.toNat_inj.symm
  rw [Bool.eq_iff_iff, sounding, bne_iff_ne, decide_eq_true_iff, Nat.pos_iff_ne_zero]
  exact not_congr zero

namespace Machine

variable {machine : Machine}

/-- Exactly one subscriber waits for the tone. -/
def HeardByOne (machine : Machine) : Prop :=
  ∃ subscriber, machine.subscribersOf "sound" = [subscriber]

theorem HeardByOne.of_subscribers {after : Machine} (heard : machine.HeardByOne)
    (same : after.subscribers = machine.subscribers) : after.HeardByOne := by
  unfold HeardByOne subscribersOf
  rw [same]
  exact heard

theorem tones_notes_sound (heard : machine.HeardByOne) (active : Bool) :
    tones (machine.notes (.sound active)) = [active] := by
  obtain ⟨subscriber, only⟩ := heard
  have name : (Event.sound active).name = "sound" := rfl
  rw [notes, name, only]
  rfl

theorem tones_notes {event : Event} (silent : ∀ active, event ≠ .sound active) :
    tones (machine.notes event) = [] := by
  refine List.filterMap_eq_nil_iff.mpr ?_
  intro effect told
  obtain ⟨subscriber, _, rfl⟩ := List.mem_map.mp told
  cases event with
  | sound active => exact absurd rfl (silent active)
  | _ => rfl

theorem turns_toneNotes (heard : machine.HeardByOne) :
    Turns machine.toneOn (tones machine.toneNotes) machine.core.timers.sounding := by
  unfold toneNotes
  split
  · rename_i upToDate
    exact upToDate.symm
  · rename_i outdated
    rw [tones_notes_sound heard]
    exact ⟨Bool.eq_not_of_ne outdated, rfl⟩

theorem turns_ticked (heard : machine.HeardByOne) :
    Turns machine.toneOn
      (tones (machine.withCore
        { machine.core with timers := machine.core.timers.tick }).toneNotes)
      machine.ticked.toneOn := by
  have stillHeard : (machine.withCore
      { machine.core with timers := machine.core.timers.tick }).HeardByOne := heard
  exact turns_toneNotes stillHeard

theorem Cycle.turns (heard : machine.HeardByOne) {outcome : Outcome Machine Unit}
    (cycle : machine.Cycle outcome) :
    Turns machine.toneOn (tones outcome.effects) outcome.state.toneOn := by
  have begun : tones (machine.notes (.beforeCycle machine.core.registers.cycles)) = [] :=
    tones_notes (by rintro _ ⟨⟩)
  cases cycle with
  | idle => rfl
  | unread | unknown | failed =>
      rw [begun]
      rfl
  | @done op instruction core running read known executed =>
      have logged : tones ((machine.settled core
          (instruction.listing machine.core.registers.pc op)).logNotes
            (instruction.listing machine.core.registers.pc op)) = [] := by
        unfold logNotes
        split <;> rfl
      have counted : (machine.withCore core.counted).HeardByOne := heard
      rw [completed_toneOn, completedNotes]
      simp only [tones_append, begun, logged, List.nil_append]
      rw [tones_notes (by rintro _ ⟨⟩), tones_notes (by rintro _ ⟨⟩), List.append_nil,
        List.append_nil]
      exact turns_toneNotes counted

theorem cycles_turns (passive : machine.Passive) (heard : machine.HeardByOne) (count : Nat) :
    Turns machine.toneOn (tones (machine.cycles count).effects)
      (machine.cycles count).state.toneOn := by
  refine cycles_induction (R := fun machine outcome =>
    machine.HeardByOne → Turns machine.toneOn (tones outcome.effects) outcome.state.toneOn)
    (fun _ => rfl) ?_ ?_ passive count heard
  · intro machine failure passive _ heard
    exact (step_cycle passive).turns heard
  · intro machine rest passive _ later heard
    have stillHeard := heard.of_subscribers (step_subscribers passive)
    rw [tones_append]
    exact ((step_cycle passive).turns heard).append (later stillHeard)

theorem frame_turns (passive : machine.Passive) (heard : machine.HeardByOne) :
    Turns machine.toneOn (tones machine.frame.effects) machine.frame.state.toneOn := by
  have cycled := cycles_turns passive heard machine.frameCycles
  have stillHeard := heard.of_subscribers (cycles_subscribers passive machine.frameCycles)
  rcases frame_cases passive rfl with ⟨_, _, frame⟩ | ⟨_, frame⟩ <;> rw [frame]
  · exact cycled
  · rw [tones_append, tones_append, tones_notes (by rintro _ ⟨⟩), List.append_nil]
    exact cycled.append (turns_ticked stillHeard)

theorem obey_turns (regular : machine.Regular) (heard : machine.HeardByOne) (command : Command) :
    Turns machine.toneOn (tones (machine.obey command).effects)
      (machine.obey command).state.toneOn := by
  have cleared : machine.powerOn.HeardByOne := heard
  cases command with
  | load rom =>
      rw [obey, load_eq regular.passive rom.property, tones_append_recorded, tones_append_recorded]
      exact turns_toneNotes cleared
  | reset =>
      rw [obey, reset_eq regular.passive regular.accepted, tones_append_recorded]
      exact turns_toneNotes cleared
  | input key pressed =>
      obtain ⟨_, keypad, input⟩ := machine.input_leaves key pressed
      rw [obey, input]
      rfl
  | step => exact (step_cycle regular.passive).turns heard
  | tick =>
      rw [obey, tick_eq regular.passive]
      exact turns_ticked heard
  | frame => exact frame_turns regular.passive heard
  | _ => rfl

theorem obey_heardByOne (regular : machine.Regular) (heard : machine.HeardByOne) {command : Command}
    (unshared : ∀ label, command ≠ .listen "sound" label) :
    (machine.obey command).state.HeardByOne := by
  obtain ⟨subscriber, only⟩ := heard
  refine ⟨subscriber, ?_⟩
  unfold subscribersOf at only ⊢
  rw [obey_subscribers regular, List.filter_append, only]
  cases command with
  | listen event label =>
      have other : event ≠ "sound" := by
        rintro rfl
        exact unshared label rfl
      simp [Command.subscribers, other]
  | _ => rfl

theorem run_turns (regular : machine.Regular) (heard : machine.HeardByOne)
    {commands : List Command}
    (unshared : ∀ command ∈ commands, ∀ label, command ≠ .listen "sound" label) :
    Turns machine.toneOn (tones (machine.effects commands)) (machine.run commands).toneOn := by
  induction commands generalizing machine with
  | nil => rfl
  | cons command rest ih =>
      have first := obey_turns regular heard command
      have stillHeard := obey_heardByOne regular heard (unshared command (by simp))
      have later := ih (regular_kept.obey regular regular command) stillHeard
        (fun other member => unshared other (by simp [member]))
      rw [effects, tones_append]
      exact first.append later

theorem inTune_kept : Kept fun machine => machine.toneOn = machine.core.timers.sounding where
  cycle {machine _} _ inTune cycle := by
    cases cycle with
    | idle => exact inTune
    | unread => exact inTune
    | unknown => exact inTune
    | failed _ _ _ executed =>
        have timers := Instruction.timers_of_failed executed
        exact inTune.trans (congrArg Timers.sounding timers.symm)
    | done =>
        rw [completed_toneOn, completed_core]
        rfl
  tick _ := rfl
  restart _ _ _ := rfl
  halt inTune := inTune
  input _ inTune := inTune
  aside _ _ _ _ inTune _ := inTune

theorem Reached.inTune (reached : machine.Reached) :
    machine.toneOn = machine.core.timers.sounding :=
  inTune_kept.reached (fun _ _ _ => rfl) reached

/-- What a beeper and its mixer have come to in the course of a run, of which `after` is left. -/
structure ToneFollows (beeper : Tone.Beeper) (effects : List Effect) (after : Machine) : Prop where
  playing : ∃ sounder, (Frontend.Session.relay (some beeper) effects).1 = some sounder ∧
    sounder.playing = after.toneOn
  timer : after.toneOn = decide (0 < after.core.timers.sound.toNat)
  /-- On comes first, and then off and on by turns. -/
  told : ∀ k (bound : k < (tones effects).length), (tones effects)[k] = (k % 2 == 0)
  /-- Likewise the mixer is asked to play first, and then to stop and to play by turns. -/
  asked : ∀ k (bound : k < (Frontend.mixerCalls
      (Frontend.Session.relay (some beeper) effects).2).length),
    (Frontend.mixerCalls (Frontend.Session.relay (some beeper) effects).2)[k] =
      if k % 2 = 0 then .play else .stop

/-- A beeper that alone hears a silent machine from now on follows its sound timer, whatever the
machine is asked for and whether that succeeds or fails. -/
theorem Reached.tone_follows (reached : machine.Reached) (silent : machine.core.timers.sound = 0)
    (unheard : machine.subscribersOf "sound" = []) (label : Int) {beeper : Tone.Beeper}
    (still : beeper.playing = false) {commands : List Command}
    (unshared : ∀ command ∈ commands, ∀ label, command ≠ .listen "sound" label) :
    ToneFollows beeper ((machine.subscribe ⟨"sound", label, .ignore⟩).effects commands)
      ((machine.subscribe ⟨"sound", label, .ignore⟩).run commands) := by
  have connected : (machine.subscribe ⟨"sound", label, .ignore⟩).Reached :=
    reached.obey (.listen "sound" label)
  have heard : (machine.subscribe ⟨"sound", label, .ignore⟩).HeardByOne := by
    refine ⟨⟨"sound", label, .ignore⟩, ?_⟩
    unfold subscribersOf at unheard
    rw [subscribersOf, subscribe, List.filter_append, unheard]
    rfl
  have turns := run_turns connected.regular heard unshared
  have off : (machine.subscribe ⟨"sound", label, .ignore⟩).toneOn = beeper.playing := by
    change machine.toneOn = _
    rw [reached.inTune, still, Timers.sounding, silent]
    rfl
  rw [off] at turns
  obtain ⟨playing, asked⟩ := Frontend.relay_turns turns
  have told := turns.getElem
  simp only [still, Bool.false_xor] at told
  refine ⟨playing, ?_, told, ?_⟩
  · rw [(connected.run commands).inTune]
    exact Timers.sounding_eq _
  · rw [asked]
    intro k bound
    rw [List.length_map] at bound
    rw [List.getElem_map, told k bound]
    simp

def siren : { rom : Rom // rom.Accepted } :=
  ⟨⟨"", #[0x60, 0x05, 0xF0, 0x18]⟩, Rom.accepted_of_size (by decide) (by decide)⟩

theorem Standing.sounds (start : Standing siren.val.data 0 [] machine) :
    (machine.run [.step, .step]).core.timers.sound = 5 := by
  obtain ⟨next, value⟩ := start.load 0 5 (by decide) (by decide)
  obtain ⟨_, op, second⟩ := next.executes (.setSound 0) (by decide) (by decide) fun _ => id
  change (machine.obey .step).state.step.state.core.timers.sound = 5
  rw [second]
  exact value

/-- The tone of a siren is turned on by its second cycle, and off again by a reset. -/
theorem siren_tone_follows :
    ToneFollows ⟨.whole 440, .whole 1, 44100, false⟩
        (((holding siren).subscribe ⟨"sound", 0, .ignore⟩).effects
          [.step, .step, .tick, .input 16 true, .reset])
        (((holding siren).subscribe ⟨"sound", 0, .ignore⟩).run
          [.step, .step, .tick, .input 16 true, .reset]) ∧
      (((holding siren).subscribe ⟨"sound", 0, .ignore⟩).run [.step, .step]).core.timers.sound =
        5 := by
  have start := holding_standing siren
  refine ⟨start.reached.tone_follows ?_ ?_ 0 rfl ?_, (start.listen "sound" 0).sounds⟩
  · rw [holding_timers]
    rfl
  · rw [subscribersOf, holding_subscribers]
    rfl
  · simp

end Machine

end Chip8
