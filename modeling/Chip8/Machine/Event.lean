import Chip8.Hardware.Screen
import Chip8.Instruction.Listing
import Chip8.Journal.Record

namespace Chip8

inductive Event where
  /-- A cycle begins, after so many completed ones. -/
  | beforeCycle (cycles : Nat)
  /-- A cycle is over, as the one of this number. -/
  | afterCycle (cycles : Nat)
  | executed (listing : Listing)
  | sound (active : Bool)
  | frameComplete (screen : Screen)
  /-- An event of a user's own. What it carries is text in a notation of that user's. -/
  | custom (name : String) (contents : List String)
  deriving DecidableEq

def Event.name : Event → String
  | .beforeCycle _ => "before_cycle"
  | .afterCycle _ => "after_cycle"
  | .executed _ => "instruction"
  | .sound _ => "sound"
  | .frameComplete _ => "frame_complete"
  | .custom name _ => name

/-- An event as it is when the picture is `screen`: a frame is not a copy, and whoever looks at it
late sees what has become of it. -/
def Event.seenWith (screen : Screen) : Event → Event
  | .frameComplete _ => .frameComplete screen
  | event => event

inductive Reaction where
  | ignore
  | halt
  | reset
  | tick
  | step
  | input (key : Int) (pressed : Bool)
  | setDelay (value : Int)
  /-- The subscriber cannot be told at all. -/
  | notCallable
  deriving DecidableEq, Repr

structure Subscriber where
  event : String
  label : Int
  reaction : Reaction
  deriving DecidableEq, Repr

/-- What can be seen from outside while a machine works. -/
inductive Effect where
  | notified (label : Int) (event : Event)
  | recorded (record : Journal.Record)
  deriving DecidableEq

end Chip8
