import Chip8.Proofs.Settings.Keyboard

namespace Chip8.Settings

open Named

variable {fields : Fields}

/-- Checks that never complain about a name that is not there. -/
def Complete {α : Type} (checked : Except Problem α) : Prop :=
  ∀ name, checked ≠ .error (.missing name)

theorem Complete.bind {α β : Type} {first : Except Problem α} {next : α → Except Problem β}
    (complete : Complete first) (rest : ∀ value, first = .ok value → Complete (next value)) :
    Complete (first >>= next) := by
  intro name missing
  cases first with
  | error problem =>
      cases missing
      exact complete name rfl
  | ok value => exact rest value rfl name missing

theorem tableOf_complete (fields : Fields) (name : String) : Complete (tableOf fields name) := by
  intro other missing
  unfold tableOf at missing
  split at missing <;> cases missing

theorem tableOf_eq_ok {name : String} {inner : Fields} :
    tableOf fields name = .ok inner ↔ find? fields name = some (.table inner) := by
  unfold tableOf
  split
  · rename_i found
    simp [found]
  · rename_i other
    refine ⟨fun same => (nomatch same), fun found => absurd found (other inner)⟩

theorem valueOf_eq_ok {name : String} {value : Value} :
    valueOf fields name = .ok value ↔ find? fields name = some value := by
  unfold valueOf
  cases find? fields name <;> simp

theorem valueOf_complete {name : String} (there : name ∈ names fields) :
    Complete (valueOf fields name) := by
  intro other missing
  unfold valueOf at missing
  split at missing
  · cases missing
  · rename_i absent
    exact find?_eq_none_iff.mp absent there

theorem positiveOf_complete {name : String} (there : name ∈ names fields) (table : String) :
    Complete (positiveOf fields table name) := by
  refine (valueOf_complete there).bind fun value _ other missing => ?_
  split at missing
  · split at missing <;> cases missing
  · cases missing

theorem truthOf_complete {name : String} (there : name ∈ names fields) (table : String) :
    Complete (truthOf fields table name) := by
  refine (valueOf_complete there).bind fun value _ other missing => ?_
  split at missing <;> cases missing

theorem volumeOf_complete (there : "volume" ∈ names fields) : Complete (volumeOf fields) := by
  refine (valueOf_complete there).bind fun value _ other missing => ?_
  split at missing
  · split at missing <;> cases missing
  · split at missing <;> cases missing
  · cases missing

theorem bindingOf_complete (earlier : List Binding) (key : String) (value : Value) :
    Complete (bindingOf earlier key value) := by
  intro name missing
  unfold bindingOf at missing
  dsimp only at missing
  repeat' split at missing
  all_goals cases missing

theorem bindingsOf_complete (earlier : List Binding) (keyboard : Fields) :
    Complete (bindingsOf earlier keyboard) := by
  induction keyboard generalizing earlier with
  | nil => exact fun _ missing => (nomatch missing)
  | cons entry rest ih => exact (bindingOf_complete earlier entry.1 entry.2).bind fun _ _ => ih _

/-- A table of this name, if there is one, has all of these keys. -/
def Equipped (fields : Fields) (table : String) (keys : List String) : Prop :=
  ∀ inner, find? fields table = some (.table inner) → ∀ key ∈ keys, key ∈ names inner

/-- No key is missing that has to be there, in those of the tables that are there. -/
structure Furnished (fields : Fields) : Prop where
  general : Equipped fields "general" ["cycles_per_frame", "fps", "scale"]
  quirks : Equipped fields "quirks" ["load_store_inclusive", "jump_v0_checked"]
  sound : Equipped fields "sound" ["enable", "frequency", "volume"]

theorem ofFields_complete (furnished : Furnished fields) :
    Complete (Preferences.ofFields fields) := by
  refine (tableOf_complete _ _).bind fun general generalTable => ?_
  refine (tableOf_complete _ _).bind fun quirks quirksTable => ?_
  refine (tableOf_complete _ _).bind fun sound soundTable => ?_
  refine (tableOf_complete _ _).bind fun keyboard _ => ?_
  have inGeneral := furnished.general general (tableOf_eq_ok.mp generalTable)
  have inQuirks := furnished.quirks quirks (tableOf_eq_ok.mp quirksTable)
  have inSound := furnished.sound sound (tableOf_eq_ok.mp soundTable)
  refine (positiveOf_complete (inGeneral _ (by simp)) _).bind fun _ _ => ?_
  refine (positiveOf_complete (inGeneral _ (by simp)) _).bind fun _ _ => ?_
  refine (positiveOf_complete (inGeneral _ (by simp)) _).bind fun _ _ => ?_
  refine (truthOf_complete (inQuirks _ (by simp)) _).bind fun _ _ => ?_
  refine (truthOf_complete (inQuirks _ (by simp)) _).bind fun _ _ => ?_
  refine (truthOf_complete (inSound _ (by simp)) _).bind fun _ _ => ?_
  refine (positiveOf_complete (inSound _ (by simp)) _).bind fun _ _ => ?_
  refine (volumeOf_complete (inSound _ (by simp))).bind fun _ _ => ?_
  exact (bindingsOf_complete [] keyboard).bind fun _ _ _ missing => (nomatch missing)

def IsPositive : Value → Prop
  | .whole value => 0 < value
  | _ => False

def IsTruth : Value → Prop
  | .truth _ => True
  | _ => False

def IsVolume : Value → Prop
  | .whole value => 0 ≤ value ∧ value ≤ 1
  | .real value => value.isNaN = false ∧ 0.0 ≤ value ∧ value ≤ 1.0
  | _ => False

/-- There is a value of this name, and it is of this kind. -/
def Has (fields : Fields) (name : String) (kind : Value → Prop) : Prop :=
  ∃ value, find? fields name = some value ∧ kind value

/-- Checks that find what they look for. -/
def Passes {α : Type} (checked : Except Problem α) : Prop := ∃ value, checked = .ok value

theorem passes_bind {α β : Type} {first : Except Problem α} {next : α → Except Problem β} :
    Passes (first >>= next) ↔ ∃ value, first = .ok value ∧ Passes (next value) := by
  constructor
  · rintro ⟨result, done⟩
    obtain ⟨value, one, rest⟩ := bind_eq_ok.mp done
    exact ⟨value, one, result, rest⟩
  · rintro ⟨value, one, result, rest⟩
    exact ⟨result, bind_eq_ok.mpr ⟨value, one, rest⟩⟩

theorem positiveOf_passes {table name : String} :
    Passes (positiveOf fields table name) ↔ Has fields name IsPositive := by
  rw [positiveOf, passes_bind, Has]
  simp only [valueOf_eq_ok]
  refine exists_congr fun value => and_congr_right fun _ => ?_
  cases value with
  | whole value =>
      dsimp only [IsPositive]
      split <;> simp_all [Passes]
  | _ => simp [Passes, IsPositive]

theorem truthOf_eq_ok {table name : String} {value : Bool} :
    truthOf fields table name = .ok value ↔ find? fields name = some (.truth value) := by
  rw [truthOf, bind_eq_ok]
  simp only [valueOf_eq_ok]
  constructor
  · rintro ⟨other, found, same⟩
    split at same <;> cases same
    exact found
  · exact fun found => ⟨.truth value, found, rfl⟩

theorem truthOf_passes {table name : String} :
    Passes (truthOf fields table name) ↔ Has fields name IsTruth := by
  simp only [Passes, truthOf_eq_ok, Has]
  constructor
  · rintro ⟨value, found⟩
    exact ⟨_, found, trivial⟩
  · rintro ⟨value, found, truth⟩
    cases value with
    | truth value => exact ⟨value, found⟩
    | _ => cases truth

theorem compare_notANumber (number : Float.Model.UnpackedFloat) :
    number.compare .notANumber = none := by
  cases number <;> rfl

theorem isNaN_of_le {low high : Float} (below : low ≤ high) : high.isNaN = false := by
  have compared : (low.toModel.unpack.compare high.toModel.unpack).any (·.isLE) = true :=
    of_decide_eq_true below
  change high.toModel.unpack.isNaN = false
  cases above : high.toModel.unpack with
  | notANumber =>
      rw [above, compare_notANumber] at compared
      cases compared
  | _ => rfl

theorem volumeOf_passes : Passes (volumeOf fields) ↔ Has fields "volume" IsVolume := by
  rw [volumeOf, passes_bind, Has]
  simp only [valueOf_eq_ok]
  refine exists_congr fun value => and_congr_right fun _ => ?_
  cases value with
  | whole value =>
      dsimp only [IsVolume]
      split <;> simp_all [Passes]
  | real value =>
      dsimp only [IsVolume]
      have number (low : 0.0 ≤ value) : value.isNaN = false := isNaN_of_le low
      split <;> simp_all [Passes]
  | _ => simp [Passes, IsVolume]

/-- The name of a key of the host as it counts, if there is one. -/
def hostName? : Value → Option String
  | .text host => some (Text.lower host)
  | _ => none

/-- Entries of different keys of the keypad for different keys of the host, none of them reserved. -/
structure ValidKeyboard (keyboard : Fields) : Prop where
  keys : ∀ entry ∈ keyboard, ∃ number, Text.hexNumber? entry.1 = some number ∧ 0 ≤ number ∧ number ≤ 15
  differentKeys : (keyboard.map fun entry => Text.hexNumber? entry.1).Nodup
  hosts : ∀ entry ∈ keyboard, ∃ host, entry.2 = .text host ∧ host ≠ "" ∧ Text.lower host ∉ reservedKeys
  differentHosts : (keyboard.map fun entry => hostName? entry.2).Nodup

theorem ValidKeyboard.perm {keyboard other : Fields} (valid : ValidKeyboard keyboard)
    (same : keyboard.Perm other) : ValidKeyboard other where
  keys entry member := valid.keys entry (same.mem_iff.mpr member)
  differentKeys := (same.map _).nodup valid.differentKeys
  hosts entry member := valid.hosts entry (same.mem_iff.mpr member)
  differentHosts := (same.map _).nodup valid.differentHosts

theorem keyNumbers_entries {bindings : List Binding}
    (numbered : ∀ binding ∈ bindings, Text.hexNumber? binding.key = some (binding.index.val : Int)) :
    (entries bindings).map (fun entry => Text.hexNumber? entry.1) =
      (bindings.map Binding.index).map fun index => some (index.val : Int) := by
  rw [entries, List.map_map, List.map_map]
  exact List.map_congr_left numbered

theorem hostNames_entries (bindings : List Binding) :
    (entries bindings).map (fun entry => hostName? entry.2) =
      (bindings.map Binding.name).map some := by
  rw [entries, List.map_map, List.map_map]
  rfl

theorem ValidKeyboard.of_accepted {bindings : List Binding} (accepted : Accepted bindings) :
    ValidKeyboard (entries bindings) where
  keys := by
    refine List.forall_mem_map.mpr fun binding member => ?_
    exact ⟨_, accepted.numbered binding member, by omega, by omega⟩
  differentKeys := by
    rw [keyNumbers_entries accepted.numbered]
    refine accepted.indices.map fun one other same => ?_
    exact Fin.ext (Int.ofNat.inj (Option.some.inj same))
  hosts := by
    refine List.forall_mem_map.mpr fun binding member => ?_
    exact ⟨_, rfl, accepted.hosts binding member, accepted.free binding member⟩
  differentHosts := by
    rw [hostNames_entries]
    exact accepted.names.map (Option.some_injective _)

theorem exists_entries {keyboard : Fields} {P : Binding → Prop}
    (each : ∀ entry ∈ keyboard, ∃ binding, (binding.key, Value.text binding.host) = entry ∧ P binding) :
    ∃ bindings, entries bindings = keyboard ∧ ∀ binding ∈ bindings, P binding := by
  induction keyboard with
  | nil => exact ⟨[], rfl, by rintro _ ⟨⟩⟩
  | cons entry rest ih =>
      obtain ⟨⟨binding, rfl, holds⟩, others⟩ := List.forall_mem_cons.mp each
      obtain ⟨bindings, rfl, all⟩ := ih others
      exact ⟨binding :: bindings, rfl, List.forall_mem_cons.mpr ⟨holds, all⟩⟩

theorem ValidKeyboard.exists_accepted {keyboard : Fields} (valid : ValidKeyboard keyboard) :
    ∃ bindings, Accepted bindings ∧ entries bindings = keyboard := by
  have each : ∀ entry ∈ keyboard, ∃ binding : Binding,
      (binding.key, Value.text binding.host) = entry ∧
      (Text.hexNumber? binding.key = some (binding.index.val : Int) ∧
        binding.name ∉ reservedKeys ∧ binding.host ≠ "") := by
    intro entry member
    obtain ⟨key, value⟩ := entry
    obtain ⟨number, known, low, high⟩ := valid.keys _ member
    obtain ⟨host, rfl, named, free⟩ := valid.hosts _ member
    have index : ((⟨number.toNat, by omega⟩ : Fin 16).val : Int) = number := Int.toNat_of_nonneg low
    exact ⟨⟨key, ⟨number.toNat, by omega⟩, host⟩, rfl, known.trans (congrArg some index.symm), free,
      named⟩
  obtain ⟨bindings, rfl, all⟩ := exists_entries each
  have numbered (binding) (member : binding ∈ bindings) := (all binding member).1
  have indices : (bindings.map Binding.index).Nodup := by
    have numbers := valid.differentKeys
    rw [keyNumbers_entries numbered] at numbers
    exact numbers.of_map _
  have names : (bindings.map Binding.name).Nodup := by
    have names := valid.differentHosts
    rw [hostNames_entries] at names
    exact names.of_map _
  exact ⟨bindings, ⟨⟨numbered, indices, fun binding member => (all binding member).2.1, names⟩,
    fun binding member => (all binding member).2.2⟩, rfl⟩

theorem bindingsOf_passes {keyboard : Fields} :
    Passes (bindingsOf [] keyboard) ↔ ValidKeyboard keyboard := by
  constructor
  · rintro ⟨bindings, bound⟩
    obtain ⟨accepted, rfl⟩ := bindingsOf_eq_ok.mp bound
    exact .of_accepted accepted
  · intro valid
    obtain ⟨bindings, accepted, same⟩ := valid.exists_accepted
    exact ⟨bindings, bindingsOf_eq_ok.mpr ⟨accepted, same⟩⟩

/-- Settings as they have to be. -/
structure ValidTables (general quirks sound keyboard : Fields) : Prop where
  cyclesPerFrame : Has general "cycles_per_frame" IsPositive
  framesPerSecond : Has general "fps" IsPositive
  scale : Has general "scale" IsPositive
  inclusiveTransfer : Has quirks "load_store_inclusive" IsTruth
  checkedJump : Has quirks "jump_v0_checked" IsTruth
  soundEnabled : Has sound "enable" IsTruth
  frequency : Has sound "frequency" IsPositive
  volume : Has sound "volume" IsVolume
  keyboard : ValidKeyboard keyboard

/-- The four tables are there, and are as they have to be. -/
def Valid (fields : Fields) : Prop :=
  ∃ general quirks sound keyboard,
    find? fields "general" = some (.table general) ∧ find? fields "quirks" = some (.table quirks) ∧
      find? fields "sound" = some (.table sound) ∧
      find? fields "keyboard" = some (.table keyboard) ∧ ValidTables general quirks sound keyboard

theorem passes_pure {α : Type} (value : α) : Passes (pure value : Except Problem α) ↔ True :=
  iff_true_intro ⟨value, rfl⟩

theorem passes_and {α : Type} {checked : Except Problem α} {P : Prop} :
    (∃ value, checked = .ok value ∧ P) ↔ Passes checked ∧ P :=
  exists_and_right

theorem ofFields_passes : Passes (Preferences.ofFields fields) ↔ Valid fields := by
  simp only [Preferences.ofFields, passes_bind, passes_pure, passes_and, tableOf_eq_ok,
    positiveOf_passes, truthOf_passes, volumeOf_passes, bindingsOf_passes]
  constructor
  · rintro ⟨general, generalTable, quirks, quirksTable, sound, soundTable, keyboard, keyboardTable,
      cyclesPerFrame, framesPerSecond, scale, inclusiveTransfer, checkedJump, soundEnabled, frequency,
      volume, bound, _⟩
    exact ⟨general, quirks, sound, keyboard, generalTable, quirksTable, soundTable, keyboardTable,
      ⟨cyclesPerFrame, framesPerSecond, scale, inclusiveTransfer, checkedJump, soundEnabled,
        frequency, volume, bound⟩⟩
  · rintro ⟨general, quirks, sound, keyboard, generalTable, quirksTable, soundTable, keyboardTable,
      valid⟩
    exact ⟨general, generalTable, quirks, quirksTable, sound, soundTable, keyboard, keyboardTable,
      valid.cyclesPerFrame, valid.framesPerSecond, valid.scale, valid.inclusiveTransfer,
      valid.checkedJump, valid.soundEnabled, valid.frequency, valid.volume, valid.keyboard, trivial⟩

theorem valid_put_keyboard {keyboard other : Fields}
    (there : find? fields "keyboard" = some (.table keyboard)) (same : keyboard.Perm other) :
    Valid (put "keyboard" (.table other) fields) ↔ Valid fields := by
  have aside {name : String} (away : name ≠ "keyboard") :
      find? (put "keyboard" (.table other) fields) name = find? fields name :=
    (find?_put _ _ _ _).trans (if_neg away)
  have changed : find? (put "keyboard" (.table other) fields) "keyboard" = some (.table other) :=
    (find?_put _ _ _ _).trans (if_pos rfl)
  unfold Valid
  rw [aside (by decide), aside (by decide), aside (by decide), changed, there]
  constructor
  · rintro ⟨general, quirks, sound, _, generalTable, quirksTable, soundTable, ⟨⟩, valid⟩
    exact ⟨general, quirks, sound, keyboard, generalTable, quirksTable, soundTable, rfl,
      { valid with keyboard := valid.keyboard.perm same.symm }⟩
  · rintro ⟨general, quirks, sound, _, generalTable, quirksTable, soundTable, ⟨⟩, valid⟩
    exact ⟨general, quirks, sound, other, generalTable, quirksTable, soundTable, rfl,
      { valid with keyboard := valid.keyboard.perm same }⟩

/-- A keymap has one key of the host for each entry of a keyboard, in their order. It leads different
keys to different numbers of the keypad, and has none that is reserved. -/
structure Transcribes (keyboard : Fields) (keymap : Named Int) : Prop where
  entries : List.Forall₂ (fun entry key =>
    hostName? entry.2 = some key.1 ∧ Text.hexNumber? entry.1 = some key.2) keyboard keymap
  distinct : keymap.Distinct
  injective : (keymap.map Prod.snd).Nodup
  inside : ∀ key ∈ keymap, 0 ≤ key.2 ∧ key.2 ≤ 15
  free : ∀ name ∈ keymap.names, name ∉ reservedKeys

theorem Accepted.transcribes {bindings : List Binding} (accepted : Accepted bindings) :
    Transcribes (entries bindings) (hostKeys bindings) where
  entries := by
    rw [Settings.entries, hostKeys, List.forall₂_map_left_iff, List.forall₂_map_right_iff,
      List.forall₂_same]
    exact fun binding member => ⟨rfl, accepted.numbered binding member⟩
  distinct := by
    rw [Distinct, names_hostKeys]
    exact accepted.names
  injective := by
    rw [numbers_hostKeys]
    exact accepted.indices.map fun one other same => Fin.ext (Int.ofNat.inj same)
  inside := by
    refine List.forall_mem_map.mpr fun binding _ => ?_
    exact ⟨by omega, by omega⟩
  free := by
    rw [names_hostKeys]
    exact List.forall_mem_map.mpr accepted.free

/-- What is said of settings when they are checked, and what comes of a keyboard that is accepted. -/
structure Judged (fields : Fields) : Prop where
  complete : Complete (Preferences.ofFields fields)
  accepted : Passes (Preferences.ofFields fields) ↔ Valid fields
  orderless : ∀ keyboard other, find? fields "keyboard" = some (.table keyboard) →
    keyboard.Perm other →
    (Passes (Preferences.ofFields (put "keyboard" (.table other) fields)) ↔
      Passes (Preferences.ofFields fields))
  keymap : Passes (Preferences.ofFields fields) →
    ∃ keyboard keymap, find? fields "keyboard" = some (.table keyboard) ∧
      keymapOf keyboard = .ok keymap ∧ Transcribes keyboard keymap

/-- Settings in which nothing is missing are accepted if they are valid, and else are refused for
another reason than that something is missing. -/
theorem Furnished.judged (furnished : Furnished fields) : Judged fields where
  complete := ofFields_complete furnished
  accepted := ofFields_passes
  orderless keyboard other there same := by
    rw [ofFields_passes, ofFields_passes]
    exact valid_put_keyboard there same
  keymap passes := by
    obtain ⟨_, _, _, keyboard, _, _, _, there, valid⟩ := ofFields_passes.mp passes
    obtain ⟨bindings, accepted, rfl⟩ := valid.keyboard.exists_accepted
    exact ⟨_, _, there, accepted.keymapOf_entries, accepted.transcribes⟩

/-- Settings whose keyboard has a spelling of its own for each key. -/
def spelledOut : Fields := [
  ("sound", .table [("volume", .whole 1), ("enable", .truth false), ("frequency", .whole 1)]),
  ("keyboard", .table [("0x_a", .text "M"), (" -0 ", .text "q"), ("+0XF", .text "Q1")]),
  ("quirks", .table [("jump_v0_checked", .truth false), ("load_store_inclusive", .truth true)]),
  ("general", .table [("scale", .whole 1), ("cycles_per_frame", .whole 7), ("fps", .whole 25)])]

theorem spelledOut_judged :
    Furnished spelledOut ∧ Passes (Preferences.ofFields spelledOut) ∧ Judged spelledOut := by
  have furnished : Furnished spelledOut := by
    constructor <;> rintro _ ⟨⟩ <;> simp [names]
  exact ⟨furnished, ⟨_, rfl⟩, furnished.judged⟩

end Chip8.Settings
