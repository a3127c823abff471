import PulseTracker.Decimal.Parts
import PulseTracker.Tone.Burst

/-!
# The sidetone

A sine without an end, for a key that is held down.  Pitch and volume are given
with every chunk; the phase carries over, so that a new pitch does not click.
-/

namespace PulseTracker

def Sidetone.keyPitch : Float32 := 2300

def Sidetone.keyVolume : Float32 := 0.6

def Sidetone.chunkLength : Nat := 256

def Sidetone.fadeLength : Nat := 128

def Sidetone.tailLength : Nat := 64

/-- The mantissa of `turn`, in units of `2 ^ -21`. -/
def turnUnits : Nat := 0xC90FDB

/-- What remains of an angle above `turn` when all whole turns are taken off.  The remainder is
exact; an infinite angle has none. -/
def withoutTurns (angle : Float32) : Float32 :=
  match Decimal.Parts.of angle with
  | .finite _ mantissa exponent =>
      Float32.ofNat (mantissa * Nat.pow 2 (exponent + 21).toNat % turnUnits) / 2097152
  | _ => 0 / 0

structure Sidetone where
  phase : Float32
  rate : Float32
  deriving DecidableEq

namespace Sidetone

def start (rate : UInt32) : Sidetone :=
  { phase := 0, rate := (max rate 1).toFloat32 }

/-- Advance of the angle per sample; a negative pitch or a NaN counts as zero. -/
def increment (tone : Sidetone) (frequency : Float32) : Float32 :=
  turn * (if frequency > 0 then frequency else 0) / tone.rate

def next (tone : Sidetone) (increment amplitude : Float32) : Int16 × Sidetone :=
  let phase := tone.phase + increment
  (truncateLevel (sine tone.phase * amplitude),
    { tone with phase := if phase > turn then withoutTurns phase else phase })

def extend (increment : Float32) (amplitude : Nat → Float32) :
    Nat → Nat → Sidetone → Array Int16 → Sidetone × Array Int16
  | _, 0, tone, samples => (tone, samples)
  | index, count + 1, tone, samples =>
      let (sample, tone) := tone.next increment (amplitude index)
      extend increment amplitude (index + 1) count tone (samples.push sample)

def render (tone : Sidetone) (frequency volume : Float32) (count : Nat) :
    Sidetone × Array Int16 :=
  extend (tone.increment frequency) (fun _ => unitVolume volume) 0 count tone #[]

def fadeOut (tone : Sidetone) (frequency volume : Float32) (count : Nat) :
    Sidetone × Array Int16 :=
  let level := unitVolume volume
  let length := count.toUInt64.toFloat32
  extend (tone.increment frequency) (fun i => level * (1 - i.toUInt64.toFloat32 / length))
    0 count tone #[]

end Sidetone

end PulseTracker
