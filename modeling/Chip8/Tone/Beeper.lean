import Chip8.Journal.Record
import Chip8.Tone.Wave

namespace Chip8.Tone

/-- A mixer as it is found: whether it has been started, why it cannot be started if it cannot, and
the sample rate and the number of channels that it works with. -/
structure Mixer where
  ready : Bool
  refusal : Option String
  rate : Int
  channels : Nat
  deriving DecidableEq, Repr

inductive MixerCall where
  | start (rate : Int)
  | sound (wave : Wave) (channels : Nat)
  | channel (number : Nat)
  | play
  | stop
  deriving DecidableEq, Repr

structure Beeper where
  frequency : Settings.Number
  volume : Settings.Number
  sampleRate : Int
  playing : Bool

inductive Refusal where
  | mixer (text : String)
  | wave (reason : NoWave)
  deriving DecidableEq, Repr

def Refusal.message : Refusal → String
  | .mixer text => text
  | .wave reason => reason.message

namespace Beeper

/-- Makes a beeper on a mixer. A mixer that has not been started is started with the sample rate that
is asked for; the wave is made for the rate that the mixer works with. -/
def create (mixer : Mixer) (frequency volume : Settings.Number) (sampleRate : Int) :
    Except Refusal Beeper × List MixerCall :=
  let start := if mixer.ready then [] else [MixerCall.start sampleRate]
  match if mixer.ready then none else mixer.refusal with
  | some text => (.error (.mixer text), start)
  | none =>
      match Wave.make mixer.rate frequency volume >>= Wave.onChannels mixer.channels with
      | .error reason => (.error (.wave reason), start)
      | .ok wave =>
          (.ok ⟨frequency, volume, mixer.rate, false⟩,
            start ++ [.sound wave mixer.channels, .channel 0])

def turn (beeper : Beeper) (active : Bool) : Beeper × List MixerCall :=
  ({ beeper with playing := active },
    if active && !beeper.playing then [.play]
    else if !active && beeper.playing then [.stop]
    else [])

def record (active : Bool) : Journal.Record :=
  Journal.debug ("Tone " ++ if active then "on" else "off")

def close (beeper : Beeper) : Beeper × List MixerCall := ({ beeper with playing := false }, [.stop])

end Beeper

end Chip8.Tone
