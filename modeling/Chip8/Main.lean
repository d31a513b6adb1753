import Chip8.Frontend.Console
import Chip8.Frontend.Start
import Chip8.Journal.Setup

/-! # The command line

Plays a program image on a terminal. Its settings are in the file `config.toml` of the current
directory. Each line of standard input stands for a frame: words that begin with a plus sign name keys
that go down, those with a minus sign keys that go up. The end of the input ends the session.
-/

namespace Chip8.Terminal

open Frontend

def readFile (path : String) : IO Found := do
  if path.toList.contains '\x00' then return .impossible
  match ← (IO.FS.readBinFile path).toBaseIO with
  | .ok bytes => return .contents bytes.data
  | .error (.noFileOrDirectory ..) => return .obstacle .missing
  | .error (.inappropriateType _ code _) =>
      return .obstacle (if code = 20 then .throughFile else .directory)
  | .error other => throw other

def settingsOf : Found → Settings.Source
  | .contents data => .contents data
  | .obstacle .directory => .directory
  | _ => .missing

/-- A supply of random bytes that a seed determines. -/
def randomFrom (seed : UInt64) : RandomSource where
  bytes := fun n => ((mixHash seed (hash n)) >>> 24).toUInt8
  drawn := 0

def eventOf (word : String) : HostEvent :=
  match word.toList with
  | '+' :: name => ((HostKey.ofName? (String.ofList name)).map HostEvent.keyDown).getD .other
  | '-' :: name => ((HostKey.ofName? (String.ofList name)).map HostEvent.keyUp).getD .other
  | _ => .other

def eventsOf (line : String) : List HostEvent :=
  ((line.trimAscii.toString.splitOn " ").filter (· ≠ "")).map eventOf

def present (journal : Journal.Setup) : Output → IO Unit
  | .print printed => (Console.printedLines printed).forM (IO.println ·)
  | .caption text => IO.println ("-- " ++ text ++ " --")
  | .picture _ screen => (Console.pictureLines screen).forM (IO.println ·)
  | .pace framesPerSecond => IO.sleep (UInt32.ofNat (1000 / framesPerSecond.toNat))
  | .mixer .play => IO.print "\x07"
  | .mixer _ => pure ()
  | .record record =>
      (journal.accepted [record]).forM fun taken => do
        IO.eprintln (Console.recordLine taken)

partial def play (journal : Journal.Setup) (input : IO.FS.Stream) (session : Session) : IO Session := do
  let line ← input.getLine
  let events := if line.isEmpty then [HostEvent.quit] else eventsOf line
  let (next, outputs) := session.round events
  outputs.forM (present journal)
  if next.running then play journal input next else return next

def run (words : List String) : IO UInt32 := do
  let details := words.contains "--debug"
  let journal := Journal.Setup.configure details none
  let settings ← readFile "config.toml"
  let path := Path.normal ((imageNames words).headD "")
  let image ← readFile path
  let seed ← IO.rand 0 (Nat.pow 2 62)
  let host : Host := {
    settings := settingsOf settings
    file := fun name => if name = path then image else .obstacle .missing
    key? := HostKey.ofName?
    mixer := ⟨true, none, 44100, 1⟩
    random := randomFrom (UInt64.ofNat seed)
    details := details }
  match start host words with
  | (.ended status, outputs) =>
      outputs.forM (present journal)
      return UInt32.ofNat status
  | (.broken breakdown _, outputs) =>
      outputs.forM (present journal)
      IO.eprintln breakdown.message
      return 1
  | (.session session, outputs) =>
      outputs.forM (present journal)
      let last ← play journal (← IO.getStdin) session
      last.close.forM (present journal)
      return 0

end Chip8.Terminal

def main (words : List String) : IO UInt32 := Chip8.Terminal.run words
