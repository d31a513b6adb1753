import Chip8.Frontend.Session
import Chip8.Settings.Keymap
import Chip8.Settings.Load
import Chip8.Text.Case

namespace Chip8.Frontend

def version : String := "0.1.0-dev.0"

structure Host where
  settings : Settings.Source
  file : String → Found
  key? : String → Option HostKey
  mixer : Tone.Mixer
  random : RandomSource
  details : Bool

inductive Breakdown where
  | settings (collapse : Settings.Collapse)
  | impossibleName
  | tone (reason : Tone.NoWave)
  deriving DecidableEq, Repr

def Breakdown.message : Breakdown → String
  | .settings collapse => collapse.message
  | .impossibleName => Rom.Refused.impossible.message
  | .tone reason => reason.message

/-- How a start went: a session, the status with which the program ends at once, or a breakdown and
the machine that there was by then. -/
inductive Started where
  | session (session : Session)
  | ended (status : Nat)
  | broken (breakdown : Breakdown) (machine : Option Machine)

/-- The keymap of the keys that the host has. Of names of the same key the last one counts. -/
def hostKeymap (host : Host) (preferences : Settings.Preferences) : List (HostKey × Fin 16) :=
  (preferences.keymap.filterMap fun (name, index) =>
    (host.key? name).map fun key => (key, index)).reverse

def keymapWarnings (host : Host) (preferences : Settings.Preferences) : List Output :=
  (preferences.keymap.filter fun entry => (host.key? entry.1).isNone).map fun (name, index) =>
    .record (Journal.warning ("Unknown host key " ++ Text.quoted name ++ " for keypad key " ++
      Numeral.hex 0 index.val))

def makeBeeper (host : Host) (preferences : Settings.Preferences) :
    Except Tone.NoWave (Option Tone.Beeper) × List Output :=
  if preferences.soundEnabled then
    match Tone.Beeper.create host.mixer (.whole preferences.frequency) preferences.volume 44100 with
    | (.ok beeper, calls) => (.ok (some beeper), calls.map Output.mixer)
    | (.error (.mixer text), calls) =>
        (.ok none, calls.map Output.mixer ++
          [.record (Journal.warning ("Sound disabled: " ++ text))])
    | (.error (.wave reason), calls) => (.error reason, calls.map Output.mixer)
  else (.ok none, [])

def bindingTexts (preferences : Settings.Preferences) : List String :=
  (preferences.keyboard.mergeSort fun a b => a.key ≤ b.key).map fun binding =>
    binding.key ++ "=" ++ Text.upper binding.host

def controlsTable (preferences : Settings.Preferences) : Table where
  title := "Controls"
  caption := none
  headers := ["Key", "Action"]
  rows :=
    let shown := bindingTexts preferences
    [["  ".intercalate (shown.take 8), "Keypad 0-7"],
      ["  ".intercalate (shown.drop 8), "Keypad 8-F"],
      ["P", "Pause/Unpause"],
      ["F5", "Reset"],
      ["F1", "Print machine state"],
      ["ESC", "Quit"]]

def greeting (preferences : Settings.Preferences) (rom : Rom) : List Output := [
  .print (.panel ("[bold cyan]chip8py [red]" ++ version ++ "[/red][/]")),
  .print (.line ("[green]Loaded:[/green] " ++ rom.file ++ "\n")),
  .print (.table (controlsTable preferences))]

def openSession (host : Host) (preferences : Settings.Preferences) (rom : Rom) :
    Started × List Output :=
  let machine := Machine.create preferences.dialect host.random preferences.cyclesPerFrame
  let loaded := { machine with tracing := host.details }.load rom
  let title := "chip8py - " ++ rom.name
  let (beeper, beeperOutputs) := makeBeeper host preferences
  let before := (Session.relay none loaded.effects).2 ++ [.caption title] ++
    keymapWarnings host preferences ++ beeperOutputs
  match beeper with
  | .error reason => (.broken (.tone reason) (some loaded.state), before)
  | .ok beeper =>
      let listening :=
        if beeper.isSome then loaded.state.subscribe ⟨"sound", 0, .ignore⟩ else loaded.state
      (.session ⟨listening, beeper, hostKeymap host preferences, title, preferences.scale,
          preferences.framesPerSecond, false, true⟩,
        before ++ greeting preferences rom)

def imageNames (words : List String) : List String := words.filter fun word => !word.startsWith "--"

def start (host : Host) (words : List String) : Started × List Output :=
  match imageNames words with
  | [] => (.ended 2, [.print (.line "[bold red]usage:[/bold red] main.py ROM [--debug]")])
  | path :: _ =>
      match Settings.load host.settings with
      | .error collapse => (.broken (.settings collapse) none, [])
      | .ok settings =>
          let name := Path.normal path
          let reading := Rom.ofFile name (host.file name)
          let before := settings.records.map Output.record ++ reading.records.map Output.record
          match reading.result with
          | .error .impossible => (.broken .impossibleName none, before)
          | .error refused => (.ended 1, before ++ [.record (Journal.error refused.message none)])
          | .ok rom =>
              let (started, outputs) := openSession host settings.preferences rom
              (started, before ++ outputs)

/-- How a run of the frontend ended: its status or a breakdown, the machine if there was one, and all
outputs. -/
structure Run where
  ending : Except Breakdown Nat
  machine : Option Machine
  outputs : List Output

def run (host : Host) (words : List String) (events : List (List HostEvent)) : Run :=
  match start host words with
  | (.ended status, outputs) => ⟨.ok status, none, outputs⟩
  | (.broken breakdown machine, outputs) => ⟨.error breakdown, machine, outputs⟩
  | (.session session, outputs) =>
      let (last, more) := session.rounds events
      ⟨.ok 0, some last.machine, outputs ++ more ++ last.close⟩

end Chip8.Frontend
