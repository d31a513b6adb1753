import Chip8.Proofs.Frontend.Start

namespace Chip8

namespace Machine

variable {machine : Machine}

theorem frame_of_completes (passive : machine.Passive)
    (completes : machine.Completes machine.frameCycles) :
    machine.frame.result = .ok () ∧
      machine.frame.state.core =
        { (machine.run (asked machine.frameCycles)).core with
          timers := (machine.run (asked machine.frameCycles)).core.timers.tick } := by
  have supervised := passive.supervised
  have same := run_undisturbed supervised machine.frameCycles
  have frame := frame_of_steps supervised same.subscribers (steps_of_completes supervised completes)
  have afterPassive := passive.of_subscribers same.subscribers
  have tickedPassive : (machine.run (asked machine.frameCycles)).ticked.framed.Passive := afterPassive
  rw [frame, tick_eq afterPassive, tickedPassive.attended]
  exact ⟨rfl, rfl⟩

theorem Cycle.timers_of_error {outcome : Outcome Machine Unit} (cycle : machine.Cycle outcome)
    {failure : Failure} (failed : outcome.result = .error failure) :
    outcome.state.core.timers = machine.core.timers := by
  cases cycle with
  | failed _ _ _ executed =>
      have timers := Instruction.timers_of_failed executed
      exact timers
  | idle | done => cases failed
  | _ => rfl

theorem Standing.frame {program : Array UInt8} {place : Nat} {addresses : List Nat}
    (reached : machine.Reached) (completes : machine.Completes machine.frameCycles)
    (standing : Standing program place addresses (machine.run (asked machine.frameCycles))) :
    Standing program place addresses machine.frame.state := by
  have core := (frame_of_completes reached.regular.passive completes).2
  refine ⟨reached.obey .frame, ?_, ?_, ?_, ?_⟩ <;> rw [core]
  · exact standing.running
  · exact standing.memory
  · exact standing.counter
  · exact standing.stack

/-- A program that sets the sound timer to five, and then jumps to the same place again and again. -/
def chime : { rom : Rom // rom.Accepted } :=
  ⟨⟨"", #[0x60, 0x05, 0xF0, 0x18, 0x12, 0x04]⟩, Rom.accepted_of_size (by decide) (by decide)⟩

theorem Standing.circles (standing : Standing chime.val.data 4 [] machine) (count : Nat) :
    machine.Completes count ∧ Standing chime.val.data 4 [] (machine.run (asked count)) ∧
      (machine.run (asked count)).core.timers = machine.core.timers := by
  induction count generalizing machine with
  | zero => exact ⟨by rintro _ ⟨⟩, standing, rfl⟩
  | succ count ih =>
      obtain ⟨done, op, core⟩ := standing.executes (.jump 0x204) (by decide) (by decide) fun _ => id
      obtain ⟨completes, further, timers⟩ := ih (standing.goes core rfl rfl standing.stack)
      have kept : machine.step.state.core.timers = machine.core.timers := by
        rw [core]
        rfl
      exact ⟨completes_succ.mpr ⟨done, completes⟩, further, timers.trans kept⟩

theorem Standing.chimes (start : Standing chime.val.data 0 [] machine)
    (long : 2 ≤ machine.frameCycles) :
    machine.Completes machine.frameCycles ∧
      Standing chime.val.data 4 [] (machine.run (asked machine.frameCycles)) ∧
      (machine.run (asked machine.frameCycles)).core.timers.sound = 5 := by
  obtain ⟨count, cycles⟩ := Nat.exists_eq_add_of_le' long
  obtain ⟨next, value⟩ := start.load 0 5 (by decide) (by decide)
  have first := (start.executes (.load 0 5) (by decide) (by decide) fun _ => id).1
  obtain ⟨second, op, core⟩ := next.executes (.setSound 0) (by decide) (by decide) fun _ => id
  have there := next.goes core rfl (next.next_counter op) next.stack
  obtain ⟨completes, further, timers⟩ := there.circles count
  rw [cycles]
  refine ⟨completes_succ.mpr ⟨first, completes_succ.mpr ⟨second, completes⟩⟩, further, ?_⟩
  refine (congrArg Timers.sound timers).trans ?_
  rw [obey, core]
  exact value

theorem no_instruction_zero (instruction : Instruction) : 0 ≠ instruction.word := by
  have word : (Opcode.ofInt 0).word = 0 := by decide
  exact word ▸ Instruction.decode?_eq_none_iff.mp Instruction.decode?_zero instruction

theorem Standing.siren_fails (start : Standing siren.val.data 0 [] machine) :
    machine.Completes 2 ∧ (machine.run (asked 2)).core.timers.sound = 5 ∧
      ∃ failure, (machine.run (asked 2)).step.result = .error failure := by
  obtain ⟨next, value⟩ := start.load 0 5 (by decide) (by decide)
  have first := (start.executes (.load 0 5) (by decide) (by decide) fun _ => id).1
  obtain ⟨second, op, core⟩ := next.executes (.setSound 0) (by decide) (by decide) fun _ => id
  have counter : ((machine.obey .step).state.core.fetched op).registers.pc = (512 + 4 : Nat) := by
    change (machine.obey .step).state.core.registers.pc + 2 = _
    rw [next.counter]
    rfl
  -- Behind the two instructions of a siren memory is empty, and zero is no instruction.
  have last := next.goes core rfl counter next.stack
  have fetched := Core.fetches_holding last.memory (by decide) last.counter
  have fails := (last.reached.step_fails_iff last.running _).mpr
    ⟨_, .unknown fetched no_instruction_zero, rfl⟩
  refine ⟨?_, start.sounds, _, fails⟩
  refine completes_succ.mpr ⟨first, completes_succ.mpr ⟨second, ?_⟩⟩
  rintro _ ⟨⟩

theorem Standing.siren_frame (start : Standing siren.val.data 0 [] machine)
    (long : 2 < machine.frameCycles) :
    (∃ failure, machine.frame.result = .error failure) ∧
      machine.frame.state = machine.run (asked 3) ∧
      (machine.run (asked 3)).core.timers.sound = 5 := by
  obtain ⟨completes, sound, failure, failed⟩ := start.siren_fails
  have supervised := start.reached.regular.passive.supervised
  have stillPassive := (start.reached.run (asked 2)).regular.passive
  have left := (step_cycle stillPassive).timers_of_error failed
  rw [frame_of_step_error supervised long completes failed]
  exact ⟨⟨failure, rfl⟩, rfl, (congrArg Timers.sound left).trans sound⟩

end Machine

namespace Frontend

namespace Session

variable {start now : Session} {events : List HostEvent} {batches : List (List HostEvent)}

/-- What a round does to the timers, in terms of what its events have left. -/
structure KeepsTime (now : Session) (events : List HostEvent) : Prop where
  /-- Each timer counts down once, and stays at zero, from what the instructions of the frame have left
  of it, if none of them fails. -/
  ticked : let told := (now.handleAll events).1
    told.paused = false → told.machine.core.registers.halted = false →
    told.machine.Completes told.machine.frameCycles →
    let worked := told.machine.run (Machine.asked told.machine.frameCycles)
    let after := (now.round events).1.machine
    after.core.timers.delay.toNat = worked.core.timers.delay.toNat - 1 ∧
      after.core.timers.sound.toNat = worked.core.timers.sound.toNat - 1
  /-- No frame is run: the machine, its timers among the rest, is the one that the events have left. -/
  resting : let told := (now.handleAll events).1
    (told.paused = true ∨ told.machine.core.registers.halted = true) →
    (now.round events).1.machine = told.machine

theorem InCourse.keepsTime (course : start.InCourse (now.handleAll events).1) :
    now.KeepsTime events where
  ticked resumed running completes := by
    have passive := course.reached.regular.passive
    obtain ⟨done, core⟩ := Machine.frame_of_completes passive completes
    have turn : (now.handleAll events).1.turn = [.frame] := by simp [turn, resumed, running, done]
    have round : (now.round events).1.machine = (now.handleAll events).1.machine.frame.state := by
      change (now.handleAll events).1.advance.1.machine = _
      rw [advance_eq, turn]
      rfl
    rw [← round] at core
    exact ⟨(congrArg (·.timers.delay.toNat) core).trans (Timers.toNat_countDown _),
      (congrArg (·.timers.sound.toNat) core).trans (Timers.toNat_countDown _)⟩
  resting idle := congrArg machine (advance_of_idle idle)

/-- The frame of the session will be run to its end, and its instructions leave no more on the sound
timer than it finds there. -/
structure Ebbs (told : Session) : Prop where
  resumed : told.paused = false
  running : told.machine.core.registers.halted = false
  completes : told.machine.Completes told.machine.frameCycles
  unprolonged : (told.machine.run (Machine.asked told.machine.frameCycles)).core.timers.sound.toNat ≤
    told.machine.core.timers.sound.toNat

/-- The frame will end with a trap, and leave no more on the sound timer than it finds there. -/
structure Breaks (told : Session) : Prop where
  resumed : told.paused = false
  running : told.machine.core.registers.halted = false
  failed : ∃ failure, told.machine.frame.result = .error failure
  unprolonged : told.machine.frame.state.core.timers.sound.toNat ≤
    told.machine.core.timers.sound.toNat

/-- Rounds in which a tone is not prolonged. So many of them run their frame to its end; in any of the
others the session rests, or a trap ends the frame. -/
inductive Fades : Session → List (List HostEvent) → Nat → Prop where
  | nil {now : Session} : Fades now [] 0
  | ticked {now : Session} {events : List HostEvent} {rest : List (List HostEvent)} {frames : Nat}
      (ebbs : (now.handleAll events).1.Ebbs) (fades : Fades (now.round events).1 rest frames) :
      Fades now (events :: rest) (frames + 1)
  | rested {now : Session} {events : List HostEvent} {rest : List (List HostEvent)} {frames : Nat}
      (idle : (now.handleAll events).1.paused = true ∨
        (now.handleAll events).1.machine.core.registers.halted = true)
      (fades : Fades (now.round events).1 rest frames) : Fades now (events :: rest) frames
  | trapped {now : Session} {events : List HostEvent} {rest : List (List HostEvent)} {frames : Nat}
      (breaks : (now.handleAll events).1.Breaks) (fades : Fades (now.round events).1 rest frames) :
      Fades now (events :: rest) frames

theorem sound_request (regular : now.machine.Regular) {event : HostEvent} {command : Command}
    (asked : request now.keymap event = some command) :
    (now.machine.obey command).state.core.timers.sound.toNat ≤
      now.machine.core.timers.sound.toNat := by
  obtain ⟨index, pressed, rfl⟩ | ⟨_, rfl⟩ := request_cases asked
  · rw [Machine.obey_index]
    exact Nat.le_refl _
  · rw [Machine.obey, Machine.reset_eq regular.passive regular.accepted]
    exact Nat.zero_le _

theorem sound_handleAll (regular : now.machine.Regular) (events : List HostEvent) :
    (now.handleAll events).1.machine.core.timers.sound.toNat ≤
      now.machine.core.timers.sound.toNat := by
  induction events generalizing now with
  | nil => exact Nat.le_refl _
  | cons event rest ih =>
      have machine : (now.handle event).1.machine =
          now.machine.run (request now.keymap event).toList := by
        rw [handle_eq]
        rfl
      have stillRegular : (now.handle event).1.machine.Regular := by
        rw [machine]
        exact regular.run _
      refine (ih stillRegular).trans ?_
      rw [machine]
      cases asked : request now.keymap event with
      | none => exact Nat.le_refl _
      | some command => exact sound_request regular asked

/-- Events may take from the sound timer, by a reset, but a frame begins with what they leave. -/
theorem sound_cons (course : start.InCourse now) {events : List HostEvent}
    {rest : List (List HostEvent)} {frames : Nat} (taken : Nat)
    (round : (now.round events).1.machine.core.timers.sound.toNat ≤
      (now.handleAll events).1.machine.core.timers.sound.toNat - taken)
    (later : ((now.round events).1.play rest).1.machine.core.timers.sound.toNat ≤
      (now.round events).1.machine.core.timers.sound.toNat - frames) :
    (now.play (events :: rest)).1.machine.core.timers.sound.toNat ≤
      now.machine.core.timers.sound.toNat - (frames + taken) := by
  have told := sound_handleAll course.reached.regular events
  have played : (now.play (events :: rest)).1 = ((now.round events).1.play rest).1 := rfl
  rw [played]
  omega

theorem sound_of_fades (begun : start.InCourse start) {frames : Nat} (fades : Fades now batches frames)
    (leads : start.Leads now) :
    (now.play batches).1.machine.core.timers.sound.toNat ≤
      now.machine.core.timers.sound.toNat - frames := by
  induction fades with
  | nil => exact Nat.le_refl _
  | @ticked now events rest frames ebbs _ ih =>
      have told := begun.of_leads (leads.handleAll events)
      refine sound_cons (begun.of_leads leads) 1 ?_ (ih (leads.round events))
      rw [(told.keepsTime.ticked ebbs.resumed ebbs.running ebbs.completes).2]
      exact Nat.sub_le_sub_right ebbs.unprolonged 1
  | @rested now events rest frames idle _ ih =>
      have told := begun.of_leads (leads.handleAll events)
      refine sound_cons (begun.of_leads leads) 0 ?_ (ih (leads.round events))
      rw [told.keepsTime.resting idle]
      exact Nat.le_refl _
  | @trapped now events rest frames breaks _ ih =>
      have told := begun.of_leads (leads.handleAll events)
      obtain ⟨failure, failed⟩ := breaks.failed
      have halted : (now.round events).1.machine = _ :=
        halted_of_trap told.reached breaks.resumed breaks.running failed
      refine sound_cons (begun.of_leads leads) 0 ?_ (ih (leads.round events))
      rw [halted]
      exact breaks.unprolonged

/-- In the course of a session the timers keep time, and a tone that is not prolonged ends. -/
structure Cadence (start : Session) : Prop where
  rounds : ∀ now, start.Leads now → ∀ events, now.KeepsTime events
  fades : ∀ now, start.Leads now → ∀ batches frames, Fades now batches frames →
    (now.play batches).1.machine.core.timers.sound.toNat ≤
      now.machine.core.timers.sound.toNat - frames
  silent : ∀ now, start.Leads now → ∀ batches frames, Fades now batches frames → 255 ≤ frames →
    (now.play batches).1.machine.toneOn = false ∧
      ∀ beeper ∈ (now.play batches).1.beeper, beeper.playing = false

end Session

variable {host : Host} {words : List String} {session : Session} {outputs : List Output}

theorem standing_of_begun {name : String} {data : Array UInt8}
    {rom : { rom : Rom // rom.Accepted }} (begun : Begun host rom session)
    (image : imageNames [name] = [name])
    (read : (Rom.ofFile (Path.normal name) (host.file (Path.normal name))).result =
      .ok ⟨Path.normal name, data⟩)
    (taken : ∃ path ∈ imageNames [name],
      (Rom.ofFile (Path.normal path) (host.file (Path.normal path))).result = .ok rom.val) :
    Machine.Standing data 0 [] session.machine := by
  obtain ⟨path, member, result⟩ := taken
  rw [image, List.mem_singleton] at member
  subst member
  have same : rom.val.data = data := by rw [← Except.ok.inj (read.symm.trans result)]
  exact same ▸ begun.standing

/-- A host like the mute one, on which the chime is played. -/
def chimeHost : Host := { muteHost with file := fun _ => .contents Machine.chime.val.data }

theorem chimeHost_session :
    ∃ session outputs, start chimeHost ["chime.ch8"] = (.session session, outputs) := by
  have image : imageNames ["chime.ch8"] = ["chime.ch8"] := by decide +kernel
  refine session_of_image image rfl rfl fun reason broken => ?_
  cases broken

theorem chimeHost_keysNamed : chimeHost.KeysNamed := by
  obtain ⟨apart, escape, pause, reset, state⟩ := muteHost_keysNamed
  exact ⟨apart, escape, pause, reset, state⟩

/-- The session goes on, and its machine jumps to the same place with so much on its sound timer. -/
structure Chiming (session : Session) (left : Nat) : Prop where
  resumed : session.paused = false
  standing : Machine.Standing Machine.chime.val.data 4 [] session.machine
  sound : session.machine.core.timers.sound.toNat = left

theorem chiming_of_completes (resumed : session.paused = false)
    (reached : session.machine.Reached) (running : session.machine.core.registers.halted = false)
    (completes : session.machine.Completes session.machine.frameCycles)
    (standing : Machine.Standing Machine.chime.val.data 4 []
      (session.machine.run (Machine.asked session.machine.frameCycles))) :
    Chiming session.advance.1 ((session.machine.run
      (Machine.asked session.machine.frameCycles)).core.timers.sound.toNat - 1) := by
  obtain ⟨done, core⟩ := Machine.frame_of_completes reached.regular.passive completes
  obtain ⟨_, machine⟩ | ⟨_, failed, _⟩ := Session.advance_of_busy reached resumed running
  · refine ⟨?_, ?_, ?_⟩
    · rw [Session.advance_eq]
      exact resumed
    · rw [machine]
      exact standing.frame reached completes
    · rw [machine, core]
      exact Timers.toNat_countDown _
  · rw [done] at failed
    cases failed

namespace Chiming

variable {left : Nat}

theorem ebbs (chiming : Chiming session left) : session.Ebbs := by
  obtain ⟨completes, _, timers⟩ := chiming.standing.circles session.machine.frameCycles
  exact ⟨chiming.resumed, chiming.standing.running, completes, by rw [timers]⟩

theorem advance (chiming : Chiming session left) : Chiming session.advance.1 (left - 1) := by
  obtain ⟨completes, standing, timers⟩ := chiming.standing.circles session.machine.frameCycles
  have after := chiming_of_completes chiming.resumed chiming.standing.reached
    chiming.standing.running completes standing
  rwa [timers, chiming.sound] at after

theorem fades (chiming : Chiming session left) (count : Nat) :
    Session.Fades session (List.replicate count []) count := by
  induction count generalizing session left with
  | zero => exact .nil
  | succ count ih => exact .ticked chiming.ebbs (ih chiming.advance)

theorem handleAll_pause (unbound : session.keymap.lookup .pause = none) :
    (session.handleAll [.keyDown .pause]).1 = { session with paused := !session.paused } := by
  have apart : HostKey.pause ≠ HostKey.escape := by decide
  simp only [Session.handleAll, Session.handle, unbound, Session.control, if_neg apart, if_true]

/-- The session rests in a round that pauses it, and goes on in a round that resumes it. -/
theorem fades_of_pauses (chiming : Chiming session left)
    (unbound : session.keymap.lookup .pause = none) (count : Nat) :
    Session.Fades session
      ([.keyDown .pause] :: [.keyDown .pause] :: List.replicate count []) (count + 1) := by
  have paused : (session.handleAll [.keyDown .pause]).1 = { session with paused := true } := by
    rw [handleAll_pause unbound, chiming.resumed]
    rfl
  have idle : (session.handleAll [.keyDown .pause]).1.paused = true := by rw [paused]
  have rested : (session.round [.keyDown .pause]).1 = { session with paused := true } :=
    (Session.advance_of_idle (.inl idle)).trans paused
  have resumed : ((session.round [.keyDown .pause]).1.handleAll [.keyDown .pause]).1 = session := by
    have again : Session.keymap { session with paused := true } = session.keymap := rfl
    rw [rested, handleAll_pause (again ▸ unbound)]
    exact congrArg (fun paused => { session with paused := paused }) chiming.resumed.symm
  have round : ((session.round [.keyDown .pause]).1.round [.keyDown .pause]).1 = session.advance.1 :=
    congrArg (·.advance.1) resumed
  refine .rested (.inl idle) (.ticked ?_ ?_)
  · rw [resumed]
    exact chiming.ebbs
  · rw [round]
    exact chiming.advance.fades count

end Chiming

theorem play_of_halted (halted : session.machine.core.registers.halted = true) (count : Nat) :
    (session.play (List.replicate count [])).1 = session := by
  induction count with
  | zero => rfl
  | succ count ih =>
      have same : (session.round []).1 = session := Session.advance_of_idle (.inr halted)
      have played : (session.play (List.replicate (count + 1) [])).1 =
          ((session.round []).1.play (List.replicate count [])).1 := rfl
      rw [played, same, ih]

theorem start_cadence (started : start host words = (.session session, outputs)) :
    session.Cadence := by
  obtain ⟨rom, _, begun⟩ := begun_of_start started
  have course {now : Session} (leads : session.Leads now) : session.InCourse now :=
    begun.inCourse.of_leads leads
  refine ⟨fun now leads events => (course (leads.handleAll events)).keepsTime,
    fun now leads batches frames fades => Session.sound_of_fades begun.inCourse fades leads,
    fun now leads batches frames fades long => ?_⟩
  have after := course (leads.play batches)
  have off : (now.play batches).1.machine.toneOn = false := by
    have bound := now.machine.core.timers.sound.toNat_lt
    have sound := Session.sound_of_fades begun.inCourse fades leads
    rw [after.reached.inTune, Timers.sounding_eq, decide_eq_false_iff_not]
    omega
  exact ⟨off, fun beeper listening => (after.inTune beeper listening).2.trans off⟩

/-- The chime sounds after its first round. Then the session is paused for a round and resumed, and with
255 frames the tone has ended. -/
theorem chimeHost_cadence :
    ∃ session outputs, start chimeHost ["chime.ch8"] = (.session session, outputs) ∧
      session.Cadence ∧ Chiming (session.round []).1 4 ∧
      (session.round []).1.machine.toneOn = true ∧
      ∃ batches, Session.Fades (session.round []).1 batches 255 ∧
        ((session.round []).1.play batches).1.machine.toneOn = false := by
  obtain ⟨session, outputs, started⟩ := chimeHost_session
  obtain ⟨rom, taken, begun⟩ := begun_of_start started
  have cadence := start_cadence started
  have start : Machine.Standing Machine.chime.val.data 0 [] session.machine :=
    standing_of_begun begun (by decide +kernel) rfl taken
  have long : 2 ≤ session.machine.frameCycles := by
    have cycles : session.machine.frameCycles = 10 := congrArg Int.toNat begun.cyclesPerFrame
    omega
  obtain ⟨completes, standing, sound⟩ := start.chimes long
  have chiming : Chiming (session.round []).1 4 := by
    have after := chiming_of_completes begun.resumed start.reached start.running completes standing
    rwa [sound] at after
  have unbound : (session.round []).1.keymap.lookup .pause = none := by
    rw [Session.round_keymap]
    exact begun.free chimeHost_keysNamed .pause (by simp [controlKeys])
  have fades := chiming.fades_of_pauses unbound 254
  have leads : session.Leads (session.round []).1 := Session.Leads.start.round []
  refine ⟨session, outputs, started, cadence, chiming, ?_, _, fades, ?_⟩
  · rw [(begun.inCourse.of_leads leads).reached.inTune, Timers.sounding_eq, chiming.sound]
    rfl
  · exact (cadence.silent _ leads _ _ fades (Nat.le_refl _)).1

/-- The first round of a siren ends with a trap. Its instructions have put five on the sound timer, from
which no round takes anything, and the tone goes on. -/
theorem siren_goes_on :
    ∃ session outputs, start muteHost ["siren.ch8"] = (.session session, outputs) ∧
      session.paused = false ∧
      (session.machine.run (Machine.asked 3)).core.timers.sound = 5 ∧
      (∃ failure, session.machine.frame.result = .error failure) ∧
      ∀ count, ((session.round []).1.play (List.replicate count [])).1.paused = false ∧
        ((session.round []).1.play (List.replicate count [])).1.machine.core.timers.sound = 5 ∧
        ((session.round []).1.play (List.replicate count [])).1.machine.toneOn = true := by
  obtain ⟨session, outputs, started⟩ := muteHost_session
  obtain ⟨rom, taken, begun⟩ := begun_of_start started
  have start : Machine.Standing Machine.siren.val.data 0 [] session.machine :=
    standing_of_begun begun (by decide +kernel) rfl taken
  have long : 2 < session.machine.frameCycles := by
    have cycles : session.machine.frameCycles = 10 := congrArg Int.toNat begun.cyclesPerFrame
    omega
  obtain ⟨⟨failure, failed⟩, frame, five⟩ := start.siren_frame long
  have advanced := Session.halted_of_trap start.reached begun.resumed start.running failed
  have halted : (session.round []).1.machine = (session.machine.run (Machine.asked 3)).halt :=
    advanced.trans (congrArg Machine.halt frame)
  have resumed : (session.round []).1.paused = false := by
    rw [Session.round_eq]
    exact (Bool.xor_false _).trans begun.resumed
  have course := begun.inCourse.of_leads (Session.Leads.start.round [])
  have sounding : (session.round []).1.machine.core.timers.sound = 5 := by
    rw [halted]
    exact five
  have tone : (session.round []).1.machine.toneOn = true := by
    rw [course.reached.inTune, Timers.sounding_eq, sounding]
    rfl
  refine ⟨session, outputs, started, begun.resumed, five, ⟨failure, failed⟩, fun count => ?_⟩
  rw [play_of_halted (by rw [halted]; rfl) count]
  exact ⟨resumed, sounding, tone⟩

end Frontend

end Chip8
