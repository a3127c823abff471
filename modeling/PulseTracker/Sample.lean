/-!
# Sixteen-bit samples

Signed sixteen-bit PCM and its two conversions: a level in `[-1, 1]` becomes a
sample by rounding, and a volume scales a sample by cutting toward zero.
-/

namespace PulseTracker

/-- The nearest point of `[lo, hi]`; a NaN passes through. -/
def clampTo (lo hi x : Float32) : Float32 :=
  if x < lo then lo else if x > hi then hi else x

def fullScale : Float32 := 32767

/-- The sample nearest to a level, halves away from zero; levels outside `[-1, 1]` are cut. -/
def quantize (level : Float32) : Int16 :=
  (clampTo (-1) 1 level * fullScale).round.toInt16

def scaleSample (gain : Float32) (sample : Int16) : Int16 :=
  (sample.toFloat32 * gain).toInt16

/-- Samples at a volume clamped to `[0, 1]`.  Full volume leaves them alone, a NaN mutes them. -/
def scaleSamples (volume : Float32) (samples : Array Int16) : Array Int16 :=
  let gain := clampTo 0 1 volume
  if gain ≥ 1 then samples else samples.map (scaleSample gain)

theorem scaleSamples_size (volume : Float32) (samples : Array Int16) :
    (scaleSamples volume samples).size = samples.size := by
  unfold scaleSamples
  dsimp only
  split
  · rfl
  · exact Array.size_map ..

def interleave (channels : Nat) (mono : Array Int16) : Array Int16 :=
  mono.flatMap fun sample => Array.replicate channels sample

end PulseTracker
