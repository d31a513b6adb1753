import Chip8.Frontend.Output
import Chip8.Machine.Cycle

/-! # A session

A session runs a machine in a window. In each round it takes the host's events, runs one frame of the
machine, unless it is paused or the machine is halted, and shows the picture. Keys that are bound to
the keypad go to the machine; of the others some control the session: they end it, pause it, reset the
machine or print its state. A program that goes wrong halts the machine.
-/

namespace Chip8.Frontend

structure Session where
  machine : Machine
  beeper : Option Tone.Beeper
  keymap : List (HostKey × Fin 16)
  title : String
  scale : Int
  framesPerSecond : Int
  paused : Bool
  running : Bool

namespace Session

/-- Passes on what the machine made known: records as they are, and the sound to the beeper. -/
def relay (beeper : Option Tone.Beeper) : List Effect → Option Tone.Beeper × List Output
  | [] => (beeper, [])
  | .recorded record :: rest =>
      let (after, outputs) := relay beeper rest
      (after, .record record :: outputs)
  | .notified _ event :: rest =>
      match beeper, event with
      | some sounder, .sound active =>
          let (turned, calls) := sounder.turn active
          let (after, outputs) := relay (some turned) rest
          (after, calls.map Output.mixer ++ .record (Tone.Beeper.record active) :: outputs)
      | _, _ => relay beeper rest

/-- Takes over what an operation left of the machine, and passes its effects on. -/
def take (session : Session) {α : Type} (outcome : Outcome Machine α) : Session × List Output :=
  let (beeper, outputs) := relay session.beeper outcome.effects
  ({ session with machine := outcome.state, beeper := beeper }, outputs)

def control (session : Session) (key : HostKey) : Session × List Output :=
  if key = .escape then ({ session with running := false }, [])
  else if key = .pause then
    ({ session with paused := !session.paused },
      [.print (.line (if session.paused then "[bold yellow]Resumed[/bold yellow]"
        else "[bold yellow]Paused[/bold yellow]"))])
  else if key = .reset then
    let (reset, outputs) := session.take session.machine.reset
    (reset, .print (.line "[bold red]Resetting emulator...[/bold red]") :: outputs)
  else if key = .state then (session, [.print (.table session.machine.stateTable)])
  else (session, [])

def handle (session : Session) : HostEvent → Session × List Output
  | .quit => ({ session with running := false }, [])
  | .other => (session, [])
  | .keyDown key =>
      match session.keymap.lookup key with
      | some index => session.take (session.machine.input index.val true)
      | none => session.control key
  | .keyUp key =>
      match session.keymap.lookup key with
      | some index => session.take (session.machine.input index.val false)
      | none => (session, [])

def handleAll (session : Session) : List HostEvent → Session × List Output
  | [] => (session, [])
  | event :: rest =>
      let (next, before) := session.handle event
      let (after, outputs) := next.handleAll rest
      (after, before ++ outputs)

/-- One frame of the machine. A trap halts it and is put on record. -/
def advance (session : Session) : Session × List Output :=
  if session.paused || session.machine.core.registers.halted then (session, [])
  else
    let outcome := session.machine.frame
    let (next, outputs) := session.take outcome
    match outcome.result with
    | .error (.trap stopped) =>
        ({ next with machine := next.machine.halt },
          outputs ++
            [.record (Journal.error ("Emulation halted: " ++ stopped.message)
                (some (.trap stopped))),
              .caption (session.title ++ " [HALTED]")])
    | _ => (next, outputs)

def round (session : Session) (events : List HostEvent) : Session × List Output :=
  let (told, first) := session.handleAll events
  let (next, second) := told.advance
  (next, first ++ second ++
    [.picture session.scale next.machine.core.screen, .pace session.framesPerSecond])

/-- Rounds until the session ends. When the host has no more events, it asks to quit. -/
def rounds (session : Session) : List (List HostEvent) → Session × List Output
  | [] => session.round [.quit]
  | events :: rest =>
      let (next, before) := session.round events
      if next.running then
        let (after, outputs) := next.rounds rest
        (after, before ++ outputs)
      else (next, before)

def close (session : Session) : List Output :=
  (match session.beeper with
    | some beeper => beeper.close.2.map Output.mixer
    | none => []) ++
    [.print (.line ("\n[bold cyan]Emulator closed.[/bold cyan] Ran [green]" ++
      toString session.machine.frameCount ++ "[/green] frames."))]

end Session

end Chip8.Frontend
