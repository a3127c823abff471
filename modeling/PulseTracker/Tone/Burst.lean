import PulseTracker.Audio.Playback
import PulseTracker.Oscillator

/-!
# Tone bursts

A tone is a sine of a given length, a short linear fade-out and a few
milliseconds of silence.  Its samples are cut toward zero.
-/

namespace PulseTracker

structure Tone where
  frequency : Float32
  milliseconds : UInt32
  deriving DecidableEq

/-- A volume in `[0, 1]`; a NaN mutes. -/
def unitVolume (volume : Float32) : Float32 :=
  if volume.isNaN then 0 else clampTo 0 1 volume

def truncateLevel (level : Float32) : Int16 := (level * fullScale).toInt16

def fadeMilliseconds : UInt32 := 20

structure Burst where
  phase : Float32
  increment : Float32
  volume : Float32
  body : Nat
  fade : Nat
  silence : Nat
  position : Nat
  deriving DecidableEq

namespace Burst

def start (tone : Tone) (volume : Float32) (rate : UInt32) : Burst :=
  let rate := max rate 1
  { phase := 0
    increment := turn * tone.frequency / rate.toFloat32
    volume := unitVolume volume
    body := (tone.milliseconds.toFloat32 / 1000 * rate.toFloat32).toUInt64.toNat
    fade :=
      min chunkMax
        (max 1 (rate.toFloat32 * (fadeMilliseconds.toFloat32 / 1000)).toUInt64.toNat)
    silence := min chunkMax (rate.toNat / 200)
    position := 0 }

def total (burst : Burst) : Nat := burst.body + burst.fade + burst.silence

def finished (burst : Burst) : Bool := burst.total ≤ burst.position

/-- Amplitude at the current position, while the sine still runs. -/
def amplitude (burst : Burst) : Float32 :=
  if burst.position < burst.body then burst.volume
  else
    let into := (burst.position - burst.body).toUInt64.toFloat32
    burst.volume * (1 - into / burst.fade.toUInt64.toFloat32)

/-- An angle one step further, a turn taken off when it is passed. -/
def nextPhase (burst : Burst) : Float32 :=
  let phase := burst.phase + burst.increment
  if phase > turn then phase - turn else phase

def next (burst : Burst) : Int16 × Burst :=
  if burst.position < burst.body + burst.fade then
    (truncateLevel (sine burst.phase * burst.amplitude),
      { burst with phase := burst.nextPhase, position := burst.position + 1 })
  else (0, { burst with position := burst.position + 1 })

def extend : Nat → Burst → Array Int16 → Burst × Array Int16
  | 0, burst, samples => (burst, samples)
  | count + 1, burst, samples =>
      let (sample, burst) := burst.next
      extend count burst (samples.push sample)

def render (burst : Burst) (room : Nat) : Burst × Array Int16 :=
  extend (min room (burst.total - burst.position)) burst #[]

def source : Source Burst where
  fill {room} buffer burst :=
    let (burst, samples) := burst.render room
    { claimed := samples.size
      buffer := overwrite samples buffer
      source := burst }

end Burst

/-- Play one tone.  The volume is part of the tone, so the chunks are not scaled again. -/
def Tone.play (tone : Tone) (sink : Sink ω) (volume : Float32) (out : ω) :
    Except SoundError Report × ω :=
  let burst := Burst.start tone volume sink.rate
  let outcome := playRaw sink Burst.source burst.total 1 neverCancelled burst out
  (outcome.result, outcome.out)

end PulseTracker
