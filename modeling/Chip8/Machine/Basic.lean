import Chip8.Hardware.Core
import Chip8.Image.Rom
import Chip8.Instruction.Execution
import Chip8.Machine.Event

namespace Chip8

/-- The lines of the most recent instructions, newest first. -/
structure TraceLog where
  newestFirst : List String
  deriving DecidableEq, Repr

namespace TraceLog

def capacity : Nat := 2048

def empty : TraceLog := ⟨[]⟩

/-- Adds a line; beyond the capacity the oldest one is lost. -/
def push (log : TraceLog) (line : String) : TraceLog := ⟨(line :: log.newestFirst).take capacity⟩

def toList (log : TraceLog) : List String := log.newestFirst.reverse

/-- The last lines, oldest first. If none are asked for, all are given, and a negative number asks
for all but the first ones. -/
def last (log : TraceLog) (count : Int) : List String :=
  log.toList.drop (if 0 < count then log.toList.length - count.toNat else count.natAbs)

theorem length_toList_push_le (log : TraceLog) (line : String) :
    (log.push line).toList.length ≤ capacity := by
  rw [toList, List.length_reverse, push, List.length_take]
  exact Nat.min_le_left _ _

end TraceLog

structure Machine where
  core : Core
  rom : Option Rom
  lastInstruction : Option Listing
  traceLog : TraceLog
  frameCount : Nat
  toneOn : Bool
  dialect : Dialect
  cyclesPerFrame : Int
  tracing : Bool
  haltOnInvalid : Bool
  subscribers : List Subscriber

namespace Machine

def create (dialect : Dialect) (random : RandomSource) (cyclesPerFrame : Int) : Machine where
  core := .powerOn random
  rom := none
  lastInstruction := none
  traceLog := .empty
  frameCount := 0
  toneOn := false
  dialect := dialect
  cyclesPerFrame := cyclesPerFrame
  tracing := false
  haltOnInvalid := false
  subscribers := []

variable (machine : Machine)

/-- The number of cycles that a frame asks for; a negative number asks for none. -/
def frameCycles : Nat := machine.cyclesPerFrame.toNat

def subscribe (subscriber : Subscriber) : Machine :=
  { machine with subscribers := machine.subscribers ++ [subscriber] }

def subscribersOf (name : String) : List Subscriber :=
  machine.subscribers.filter fun subscriber => subscriber.event == name

def setRegisters (registers : Registers) : Machine :=
  { machine with core := { machine.core with registers := registers } }

def halt : Machine := machine.setRegisters { machine.core.registers with halted := true }

def resume : Machine := machine.setRegisters { machine.core.registers with halted := false }

/-- The computer and the history as they are at power-on. The supply of random bytes is not
rewound. -/
def powerOn : Machine :=
  { machine with
    core := .powerOn machine.core.random
    lastInstruction := none
    traceLog := .empty
    frameCount := 0 }

end Machine

end Chip8
