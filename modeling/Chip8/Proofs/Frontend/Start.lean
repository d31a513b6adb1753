import Chip8.Frontend.Start
import Chip8.Proofs.Frontend.Course
import Chip8.Proofs.Settings.Load

namespace Chip8.Frontend

open Settings

def controlKeys : List HostKey := [.escape, .pause, .reset, .state]

/-- No key that controls the session is bound to the keypad. -/
def Session.Free (session : Session) : Prop :=
  ∀ key ∈ controlKeys, session.keymap.lookup key = none

namespace Host

variable (host : Host)

def preferences : Preferences :=
  match load host.settings with
  | .ok loaded => loaded.preferences
  | .error _ => .standard

theorem preferences_eq {loaded : Loaded} (loads : load host.settings = .ok loaded) :
    host.preferences = loaded.preferences := by
  rw [preferences, loads]

theorem keyed_preferences : Keyed host.preferences.keyboard := by
  unfold preferences
  split
  · rename_i loads
    exact load_keyed loads
  · exact keyed_standardKeyboard

def names : List String := reservedKeys ++ host.preferences.keyboard.map Binding.name

/-- Different names are names of different keys, and the controls go by theirs. -/
structure KeysNamed (host : Host) : Prop where
  apart : ∀ one ∈ host.names, ∀ other ∈ host.names, ∀ key,
    host.key? one = some key → host.key? other = some key → one = other
  escape : host.key? "escape" = some .escape
  pause : host.key? "p" = some .pause
  reset : host.key? "f5" = some .reset
  state : host.key? "f1" = some .state

end Host

variable {host : Host} {session : Session}

theorem lookup_eq_some_iff_mem {α β : Type} [BEq α] [LawfulBEq α] {row : List (α × β)}
    (functional : ∀ one ∈ row, ∀ other ∈ row, one.1 = other.1 → one = other) {name : α} {thing : β} :
    row.lookup name = some thing ↔ (name, thing) ∈ row := by
  induction row with
  | nil => simp
  | cons pair rest ih =>
      obtain ⟨first, head⟩ := pair
      have restFunctional : ∀ one ∈ rest, ∀ other ∈ rest, one.1 = other.1 → one = other :=
        fun one member other otherMember =>
          functional one (List.mem_cons_of_mem _ member) other (List.mem_cons_of_mem _ otherMember)
      by_cases here : name = first
      · subst here
        have found : List.lookup name ((name, head) :: rest) = some head := by simp
        rw [found]
        constructor
        · rintro ⟨⟩
          exact List.mem_cons_self
        · intro member
          have same := functional _ List.mem_cons_self _ member rfl
          cases same
          rfl
      · have unequal : (name == first) = false := beq_eq_false_iff_ne.mpr here
        rw [List.lookup_cons, unequal, List.mem_cons]
        simp [ih restFunctional, here]

namespace Host.KeysNamed

theorem name_mem {binding : Binding} (bound : binding ∈ host.preferences.keyboard) :
    binding.name ∈ host.names :=
  List.mem_append_right _ (List.mem_map.mpr ⟨binding, bound, rfl⟩)

theorem reserved_mem {name : String} (reserved : name ∈ reservedKeys) : name ∈ host.names :=
  List.mem_append_left _ reserved

theorem lookup_hostKeymap (named : host.KeysNamed) {key : HostKey} {index : Fin 16} :
    (hostKeymap host host.preferences).lookup key = some index ↔
      ∃ binding ∈ host.preferences.keyboard,
        host.key? binding.name = some key ∧ binding.index = index := by
  have keyed : Keyed host.preferences.keyboard := host.keyed_preferences
  have entry {pair : HostKey × Fin 16} : pair ∈ hostKeymap host host.preferences ↔
      ∃ binding ∈ host.preferences.keyboard,
        host.key? binding.name = some pair.1 ∧ binding.index = pair.2 := by
    unfold hostKeymap
    rw [keyed.keymap_eq, List.mem_reverse, List.filterMap_map, List.mem_filterMap]
    refine exists_congr fun binding => and_congr_right fun _ => ?_
    obtain ⟨key, index⟩ := pair
    cases found : host.key? binding.name <;> simp [found]
  refine (lookup_eq_some_iff_mem ?_).trans entry
  intro one member other otherMember same
  obtain ⟨binding, bound, found, index⟩ := entry.mp member
  obtain ⟨another, otherBound, otherFound, otherIndex⟩ := entry.mp otherMember
  have names := named.apart _ (name_mem bound) _ (name_mem otherBound) _ found (same ▸ otherFound)
  have bindings : binding = another := List.inj_on_of_nodup_map keyed.names bound otherBound names
  subst bindings
  exact Prod.ext same (index.symm.trans otherIndex)

theorem lookup_reserved (named : host.KeysNamed) {name : String} {key : HostKey}
    (reserved : name ∈ reservedKeys) (found : host.key? name = some key) :
    (hostKeymap host host.preferences).lookup key = none := by
  have keyed : Keyed host.preferences.keyboard := host.keyed_preferences
  cases taken : (hostKeymap host host.preferences).lookup key with
  | none => rfl
  | some index =>
      obtain ⟨binding, bound, same, _⟩ := named.lookup_hostKeymap.mp taken
      have names := named.apart _ (reserved_mem reserved) _ (name_mem bound) _ found same
      exact absurd (names ▸ reserved) (keyed.free binding bound)

theorem controls_unbound (named : host.KeysNamed) :
    ∀ key ∈ controlKeys, (hostKeymap host host.preferences).lookup key = none := by
  simp only [controlKeys, List.forall_mem_cons, List.not_mem_nil, false_imp_iff, implies_true, and_true]
  exact ⟨named.lookup_reserved (by simp [reservedKeys]) named.escape,
    named.lookup_reserved (by simp [reservedKeys]) named.pause,
    named.lookup_reserved (by simp [reservedKeys]) named.reset,
    named.lookup_reserved (by simp [reservedKeys]) named.state⟩

end Host.KeysNamed

/-- A session that has just begun with an image. -/
structure Begun (host : Host) (rom : { rom : Rom // rom.Accepted }) (session : Session) : Prop where
  machine : session.machine =
    (Machine.create host.preferences.dialect host.random host.preferences.cyclesPerFrame).run
      (.setTracing host.details :: .load rom ::
        if session.beeper.isSome then [.listen "sound" 0] else [])
  keymap : session.keymap = hostKeymap host host.preferences
  silent : ∀ beeper ∈ session.beeper, beeper.playing = false
  resumed : session.paused = false
  running : session.running = true

namespace Begun

variable {rom : { rom : Rom // rom.Accepted }}

theorem machine_eq (begun : Begun host rom session) :
    ∃ setup : Machine, session.machine = setup.restarted ∧ setup.rom = some rom.val ∧
      setup.cyclesPerFrame = host.preferences.cyclesPerFrame ∧
      (session.beeper.isSome → setup.subscribers = [⟨"sound", 0, .ignore⟩]) := by
  have loaded {machine : Machine} (new : machine.subscribers = []) :
      (machine.obey (.load rom)).state = (machine.inserted rom.val).restarted := by
    have passive : machine.Passive := by
      rw [Machine.Passive, new]
      rintro _ ⟨⟩
    rw [Machine.obey, Machine.load_eq passive rom.property]
  rw [begun.machine, Machine.run, Machine.run, loaded rfl]
  cases session.beeper with
  | none => exact ⟨_, rfl, rfl, rfl, fun heard => absurd heard Bool.false_ne_true⟩
  | some beeper =>
      exact ⟨_, Machine.subscribe_restarted _ ⟨"sound", 0, .ignore⟩, rfl, rfl, fun _ => rfl⟩

theorem reached (begun : Begun host rom session) : session.machine.Reached :=
  ⟨_, _, _, _, begun.machine.symm⟩

theorem restarted (begun : Begun host rom session) : session.machine.restarted = session.machine := by
  obtain ⟨setup, machine, _⟩ := begun.machine_eq
  rw [machine, Machine.restarted_restarted]

theorem cyclesPerFrame (begun : Begun host rom session) :
    session.machine.cyclesPerFrame = host.preferences.cyclesPerFrame := by
  obtain ⟨setup, machine, _, cycles, _⟩ := begun.machine_eq
  rw [machine]
  exact cycles

theorem standing (begun : Begun host rom session) :
    Machine.Standing rom.val.data 0 [] session.machine := by
  obtain ⟨setup, machine, loaded, _⟩ := begun.machine_eq
  have image : setup.image = .holding rom.val.data := by rw [Machine.image, loaded]
  refine ⟨begun.reached, ?_, ?_, ?_, ?_⟩ <;> rw [machine]
  · rfl
  · exact image
  · rfl
  · rfl

theorem inTune (begun : Begun host rom session) : session.InTune := by
  intro beeper listening
  obtain ⟨setup, machine, _, _, heard⟩ := begun.machine_eq
  have only := heard (by rw [listening]; rfl)
  have heardByOne : setup.HeardByOne := by
    unfold Machine.HeardByOne Machine.subscribersOf
    rw [only]
    exact ⟨_, rfl⟩
  -- A machine that is restarted has told nobody of a tone yet, and a beeper begins silent.
  rw [begun.silent beeper listening, machine]
  exact ⟨heardByOne, rfl⟩

theorem free (begun : Begun host rom session) (named : host.KeysNamed) : session.Free := by
  unfold Session.Free
  rw [begun.keymap]
  exact named.controls_unbound

theorem inCourse (begun : Begun host rom session) : session.InCourse session :=
  ⟨begun.reached, rfl, ⟨rfl, rfl, rfl, rfl, rfl, rfl⟩, begun.inTune⟩

end Begun

theorem playing_of_create {mixer : Tone.Mixer} {frequency volume : Number} {rate : Int}
    {beeper : Tone.Beeper} {calls : List Tone.MixerCall}
    (made : Tone.Beeper.create mixer frequency volume rate = (.ok beeper, calls)) :
    beeper.playing = false := by
  unfold Tone.Beeper.create at made
  dsimp only at made
  split at made
  · cases made
  · split at made <;> cases made
    rfl

theorem silent_of_makeBeeper {preferences : Preferences} {made : Option Tone.Beeper}
    {outputs : List Output} (making : makeBeeper host preferences = (.ok made, outputs)) :
    ∀ beeper ∈ made, beeper.playing = false := by
  intro beeper member
  unfold makeBeeper at making
  split at making
  · split at making <;> cases making
    · rename_i created
      cases member
      exact playing_of_create created
    · cases member
  · cases making
    cases member

theorem begun_of_openSession (rom : { rom : Rom // rom.Accepted }) {outputs : List Output}
    (opened : openSession host host.preferences rom.val = (.session session, outputs)) :
    Begun host rom session := by
  unfold openSession at opened
  dsimp only at opened
  rcases making : makeBeeper host host.preferences with ⟨made, calls⟩
  rw [making] at opened
  cases made with
  | error reason => cases opened
  | ok beeper =>
      cases opened
      refine ⟨?_, rfl, silent_of_makeBeeper making, rfl, rfl⟩
      dsimp only
      cases beeper <;> rfl

theorem begun_of_start {words : List String} {outputs : List Output}
    (started : start host words = (.session session, outputs)) :
    ∃ rom : { rom : Rom // rom.Accepted },
      (∃ path ∈ imageNames words,
        (Rom.ofFile (Path.normal path) (host.file (Path.normal path))).result = .ok rom.val) ∧
      Begun host rom session := by
  unfold start at started
  split at started
  · cases started
  · rename_i path rest image
    split at started
    · cases started
    · rename_i settings loads
      dsimp only at started
      split at started
      · cases started
      · cases started
      · rename_i rom taken
        have accepted : rom.Accepted := by
          rcases reading : Rom.ofFile (Path.normal path) (host.file (Path.normal path)) with
            ⟨result, records⟩
          rw [reading] at taken
          cases taken
          exact .file reading
        rw [← host.preferences_eq loads] at started
        rcases opening : openSession host host.preferences rom with ⟨opened, told⟩
        rw [opening] at started
        cases started
        have first : path ∈ imageNames words := image ▸ List.mem_cons_self
        exact ⟨⟨rom, accepted⟩, ⟨path, first, taken⟩, begun_of_openSession ⟨rom, accepted⟩ opening⟩

/-- A start with an image that is accepted opens a session, if the settings are loaded and the tone has
a wave. -/
theorem session_of_image {words rest : List String} {path : String} {rom : Rom} {settings : Loaded}
    (image : imageNames words = path :: rest) (loads : load host.settings = .ok settings)
    (taken : (Rom.ofFile (Path.normal path) (host.file (Path.normal path))).result = .ok rom)
    (waved : ∀ reason, (makeBeeper host host.preferences).1 ≠ .error reason) :
    ∃ session outputs, start host words = (.session session, outputs) := by
  rw [host.preferences_eq loads] at waved
  rcases making : makeBeeper host settings.preferences with ⟨made, calls⟩
  cases made with
  | error reason =>
      rw [making] at waved
      exact absurd rfl (waved reason)
  | ok beeper =>
      simp only [start, image, loads, taken, openSession, making]
      exact ⟨_, _, rfl⟩

/-- A host with the standard settings on which a siren is played, and on which nothing is heard. -/
def muteHost : Host where
  settings := .missing
  file := fun _ => .contents Machine.siren.val.data
  key? := HostKey.ofName?
  mixer := ⟨false, some "no audio device", 44100, 1⟩
  random := ⟨fun _ => 0, 0⟩
  details := false

theorem muteHost_keysNamed : muteHost.KeysNamed where
  apart one oneNamed other otherNamed key oneFound otherFound := by
    have apart : ∀ one ∈ muteHost.names, ∀ other ∈ muteHost.names,
        HostKey.ofName? one = HostKey.ofName? other → one = other := by decide +kernel
    exact apart one oneNamed other otherNamed (oneFound.trans otherFound.symm)
  escape := by decide +kernel
  pause := by decide +kernel
  reset := by decide +kernel
  state := by decide +kernel

theorem muteHost_session :
    ∃ session outputs, start muteHost ["siren.ch8"] = (.session session, outputs) := by
  have image : imageNames ["siren.ch8"] = ["siren.ch8"] := by decide +kernel
  refine session_of_image image rfl rfl fun reason broken => ?_
  cases broken

end Chip8.Frontend
