import Chip8.Numeral.Double
import Chip8.Numeral.RealForm
import Chip8.Settings.Preferences

/-! # The wave of the tone

The tone is a square wave: one period of it is played again and again. Its first half is high, the
rest low. The period is the sample rate over the frequency as a double, rounded to a whole number of
samples with halves to the even neighbour, and two samples at least. A sample has sixteen bits.
-/

namespace Chip8.Tone

inductive NoWave where
  /-- The frequency is zero, as a whole number or as a double. -/
  | noFrequency (whole : Bool)
  | slow
  | fastRate
  /-- The period or the height is infinite or no number. -/
  | boundless (reason : Numeral.Boundless)
  /-- No row of samples is as long as the period. -/
  | noSuchLength
  /-- No row of bytes is as long as the period. -/
  | noSuchSize
  /-- No memory has room for a period of so many samples, on so many channels if they come in. -/
  | noRoom (period : Nat) (channels : Option Nat)
  | manyChannels
  | loud (sample : Int)
  deriving DecidableEq, Repr

def NoWave.message : NoWave → String
  | .noFrequency whole => if whole then "division by zero" else "float division by zero"
  | .slow => "integer division result too large for a float"
  | .fastRate => "int too large to convert to float"
  | .boundless reason => reason.message
  | .noSuchLength => "Maximum allowed dimension exceeded"
  | .noSuchSize =>
      "array is too big; `arr.size * arr.dtype.itemsize` is larger than the maximum possible size."
  | .noRoom period channels =>
      "Unable to allocate " ++ Numeral.binarySize (2 * period * channels.getD 1) ++
        " for an array with shape (" ++ toString period ++ "," ++
        (channels.map fun count => " " ++ toString count).getD "" ++ ") and data type int16"
  | .manyChannels => "Python int too large to convert to C long"
  | .loud sample =>
      if -(Nat.pow 2 63) ≤ sample ∧ sample < Nat.pow 2 63 then
        "Python integer " ++ toString sample ++ " out of bounds for int16"
      else "Python int too large to convert to C long"

/-- One period of a square wave: its number of samples and the height of the first half. -/
structure Wave where
  period : Nat
  amplitude : Int
  deriving DecidableEq, Repr

def fullScale : Int := 32767

/-- The height of a wave at a volume, toward zero. -/
def amplitudeOf : Settings.Number → Except NoWave Int
  | .whole volume => .ok (fullScale * volume)
  | .real volume => (Numeral.truncated (32767.0 * volume)).mapError .boundless

/-- The number of samples of a period, before it is made two at least. -/
def quotientOf (rate : Int) : Settings.Number → Except NoWave Int
  | .whole frequency =>
      if frequency = 0 then .error (.noFrequency true)
      else
        match Numeral.wholeQuotient? rate.natAbs frequency.natAbs with
        | some size => .ok (if rate < 0 ↔ frequency < 0 then size else -size)
        | none => .error .slow
  | .real frequency =>
      match Numeral.doubleOf? rate with
      | none => .error .fastRate
      | some double =>
          if frequency == 0.0 then .error (.noFrequency false)
          else (Numeral.rounded (double / frequency)).mapError .boundless

def maxLength : Nat := Nat.pow 2 63 - 1

def noRoom : Nat := Nat.pow 2 38

def fits (sample : Int) : Bool := -32768 ≤ sample && sample ≤ fullScale

namespace Wave

def make (rate : Int) (frequency volume : Settings.Number) : Except NoWave Wave := do
  let period := max 2 (← quotientOf rate frequency).toNat
  let amplitude ← amplitudeOf volume
  if maxLength < period then .error .noSuchLength
  else if maxLength < 2 * period then .error .noSuchSize
  else if noRoom ≤ period then .error (.noRoom period none)
  else if !fits (-amplitude) then .error (.loud (-amplitude))
  else if !fits amplitude then .error (.loud amplitude)
  else .ok ⟨period, amplitude⟩

/-- The wave for a number of channels. More than one channel take up room of their own. -/
def onChannels (channels : Nat) (wave : Wave) : Except NoWave Wave :=
  if channels ≤ 1 then .ok wave
  else if maxLength < channels then .error .manyChannels
  else if maxLength < 2 * wave.period * channels then .error .noSuchSize
  else if noRoom ≤ wave.period * channels then .error (.noRoom wave.period (some channels))
  else .ok wave

def samples (wave : Wave) : List Int :=
  List.replicate (wave.period / 2) wave.amplitude ++
    List.replicate (wave.period - wave.period / 2) (-wave.amplitude)

/-- The samples of a period, equal ones in a row together with their number. -/
def runs (wave : Wave) : List (Int × Nat) :=
  if wave.amplitude = 0 then [(0, wave.period)]
  else
    [(wave.amplitude, wave.period / 2), (-wave.amplitude, wave.period - wave.period / 2)]

theorem length_samples (wave : Wave) : wave.samples.length = wave.period := by
  simp only [samples, List.length_append, List.length_replicate]
  omega

theorem flatMap_runs (wave : Wave) :
    wave.runs.flatMap (fun run => List.replicate run.2 run.1) = wave.samples := by
  unfold runs samples
  split
  · next silent =>
      have whole : wave.period / 2 + (wave.period - wave.period / 2) = wave.period := by omega
      simp [silent, List.replicate_append_replicate, whole]
  · simp

end Wave

end Chip8.Tone
