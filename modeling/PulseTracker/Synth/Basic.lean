import PulseTracker.Noise
import PulseTracker.Oscillator
import PulseTracker.Pattern
import PulseTracker.StepFade
import PulseTracker.Synth.Count

/-!
# The synthesizer

Two pulse voices, lead and harmony, and one noise voice, mixed to mono samples at
one output rate.  Everything that is carried from one sample to the next is an
`Oscillators` value; a `Cursor` adds the position in the pattern.  Both renderers advance the same
oscillators and mix the same levels, so they differ in how they walk the pattern
and in nothing else.
-/

namespace PulseTracker

structure Voicing where
  leadDuty : Float32
  harmonyDuty : Float32
  shortNoise : Bool
  sine : Bool
  deriving DecidableEq

instance : Inhabited Voicing := ⟨⟨0.5, 0.5, false, false⟩⟩

/-- A synthesizer at one output rate, which is never zero. -/
structure Synth where
  rate : UInt32
  rate_pos : 0 < rate

namespace Synth

/-- Rate zero counts as one. -/
def ofRate (rate : UInt32) : Synth :=
  if h : 0 < rate then ⟨rate, h⟩ else ⟨1, by decide⟩

def speaker : Synth := ofRate 22050

/-- Samples per step, a sixteenth note at the tempo and at least one.  Tempo zero counts as one. -/
def stepLength (synth : Synth) (bpm : UInt32) : Nat :=
  let seconds := 60 / (max bpm 1).toFloat32 / 4
  max 1 (nearestWhole (seconds * synth.rate.toFloat32))

theorem stepLength_pos (synth : Synth) (bpm : UInt32) : 0 < synth.stepLength bpm :=
  Nat.le_max_left ..

/-- Samples of a whole pass over a pattern, cut at `countMax`. -/
def patternLength (synth : Synth) (pattern : Pattern) (bpm : UInt32) : Nat :=
  min countMax (synth.stepLength bpm * pattern.steps)

end Synth

structure NoiseVoice where
  register : NoiseRegister
  level : Int8
  countdown : Int
  deriving DecidableEq, Repr

/-- Lowest value of the countdown; it stays there instead of falling further. -/
def NoiseVoice.countdownMin : Int := -0x80000000

def NoiseVoice.advance (period : Nat) (short : Bool) (voice : NoiseVoice) : NoiseVoice :=
  let countdown := max countdownMin (voice.countdown - 1)
  if countdown ≤ 0 then
    let register := voice.register.clock short
    { register, level := register.level, countdown := period }
  else { voice with countdown }

/-- All that sounding carries from one sample to the next. -/
structure Oscillators where
  leadPhase : Float32
  harmonyPhase : Float32
  noise : NoiseVoice
  deriving DecidableEq

/-- Where a stream stands in its pattern.  A step at or past the last one means finished. -/
structure Cursor where
  step : Nat
  offset : Nat
  oscillators : Oscillators
  deriving DecidableEq

namespace Oscillators

def initial : Oscillators :=
  { leadPhase := 0
    harmonyPhase := 0
    noise := { register := .initial, level := 1, countdown := 0 } }

end Oscillators

def Cursor.start : Cursor :=
  { step := 0, offset := 0, oscillators := .initial }

def Cursor.finished (cursor : Cursor) (pattern : Pattern) : Bool :=
  cursor.step ≥ pattern.steps

structure Chord where
  leadIncrement : Option Float32
  harmonyIncrement : Option Float32
  noisePeriod : Option Nat
  deriving DecidableEq

def Synth.chordAt (synth : Synth) (pattern : Pattern) (step : Nat) : Chord :=
  { leadIncrement := (pattern.leadAt step).map (noteIncrement · synth.rate)
    harmonyIncrement := (pattern.harmonyAt step).map (noteIncrement · synth.rate)
    noisePeriod := (pattern.noiseAt step).map fun pitch =>
      min 0x7FFFFFFF (PulseTracker.noisePeriod pitch synth.rate).toNat }

/-- A phase moved on by its increment; a resting voice keeps its phase. -/
def advancePhase (increment : Option Float32) (phase : Float32) : Float32 :=
  match increment with
  | some increment => wrapPhase (phase + increment)
  | none => phase

namespace Oscillators

def advance (chord : Chord) (short : Bool) (osc : Oscillators) : Oscillators :=
  { leadPhase := advancePhase chord.leadIncrement osc.leadPhase
    harmonyPhase := advancePhase chord.harmonyIncrement osc.harmonyPhase
    noise :=
      match chord.noisePeriod with
      | some period => osc.noise.advance period short
      | none => osc.noise }

/-- A step with noise clocks the register on its first sample. -/
def arm (chord : Chord) (osc : Oscillators) : Oscillators :=
  if chord.noisePeriod.isSome then
    { osc with noise := { osc.noise with countdown := 0 } }
  else osc

def pulseGain : Float32 := 0.5

def noiseGain : Float32 := 0.4

/-- Sum of the voices that sound, read off oscillators that were just advanced. -/
def mix (chord : Chord) (voicing : Voicing) (osc : Oscillators) : Float32 :=
  let first :=
    if chord.leadIncrement.isSome then
      0 + (if voicing.sine then sineWave osc.leadPhase
        else squareWave voicing.leadDuty osc.leadPhase) * pulseGain
    else 0
  let second :=
    if chord.harmonyIncrement.isSome then
      first + squareWave voicing.harmonyDuty osc.harmonyPhase * pulseGain
    else first
  if chord.noisePeriod.isSome then
    second + osc.noise.level.toFloat32 * noiseGain
  else second

end Oscillators

def renderSpan (chord : Chord) (voicing : Voicing) (fade : StepFade) :
    Nat → Nat → Oscillators → Array Int16 → Oscillators × Array Int16
  | _, 0, osc, out => (osc, out)
  | position, count + 1, osc, out =>
      let osc := osc.advance chord voicing.shortNoise
      let sample := quantize (osc.mix chord voicing * fade.gain position)
      renderSpan chord voicing fade (position + 1) count osc (out.push sample)

end PulseTracker
