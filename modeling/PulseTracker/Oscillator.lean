/-!
# Oscillator waveforms

A phase runs over `[0, 1)` and advances by a fixed increment per sample.  The
waveforms are functions of the phase alone.
-/

namespace PulseTracker

/-- One full turn in radians, the nearest single-precision value. -/
def turn : Float32 := Float32.ofBits 0x40C90FDB

/-- Two to a power, rounded once. -/
def exp2 (x : Float32) : Float32 := x.toFloat.exp2.toFloat32

def sine (x : Float32) : Float32 := x.toFloat.sin.toFloat32

/-- Bring a phase that was just advanced back into `[0, 1)`: one subtraction, and the whole
part as well where a single one is not enough. -/
def wrapPhase (phase : Float32) : Float32 :=
  if phase ≥ 1 then
    let once := phase - 1
    if once ≥ 1 then once - once.floor else once
  else phase

/-- Phase increment per sample of an equal-tempered note; note 69 is 440 Hz. -/
def noteIncrement (note : UInt8) (rate : UInt32) : Float32 :=
  440 * exp2 ((note.toFloat32 - 69) / 12) / rate.toFloat32

def squareWave (duty phase : Float32) : Float32 :=
  if phase < duty then 1 else -1

def sineWave (phase : Float32) : Float32 := sine (phase * turn)

end PulseTracker
