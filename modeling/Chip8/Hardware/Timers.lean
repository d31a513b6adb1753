import Chip8.Numeral.Bits

namespace Chip8

structure Timers where
  delay : UInt8
  sound : UInt8
  deriving DecidableEq, Repr

namespace Timers

def rate : Nat := 60

def stopped : Timers := ⟨0, 0⟩

def sounding (timers : Timers) : Bool := timers.sound != 0

def countDown (value : UInt8) : UInt8 := if value = 0 then 0 else value - 1

def tick (timers : Timers) : Timers := ⟨countDown timers.delay, countDown timers.sound⟩

def describe (timers : Timers) : String :=
  "<TimerUnit delay=" ++ toString timers.delay.toNat ++
    " sound=" ++ toString timers.sound.toNat ++ ">"

end Timers

end Chip8
