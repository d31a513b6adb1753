import Chip8.Frontend.HostKey
import Chip8.Machine.Report
import Chip8.Tone.Beeper

namespace Chip8.Frontend

inductive HostEvent where
  | keyDown (key : HostKey)
  | keyUp (key : HostKey)
  | quit
  /-- Anything that does not concern the frontend. -/
  | other
  deriving DecidableEq, Repr

inductive Printed where
  | line (markup : String)
  | panel (markup : String)
  | table (table : Table)
  deriving DecidableEq, Repr

inductive Output where
  | print (printed : Printed)
  | caption (text : String)
  /-- The picture, each of its pixels a square of `scale` by `scale`. -/
  | picture (scale : Int) (screen : Screen)
  /-- A pause, so that there are so many pictures a second. -/
  | pace (framesPerSecond : Int)
  | mixer (call : Tone.MixerCall)
  | record (record : Journal.Record)
  deriving DecidableEq

end Chip8.Frontend
