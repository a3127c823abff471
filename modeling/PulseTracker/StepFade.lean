import PulseTracker.Sample

/-!
# Step fades

Every step begins and ends with a short linear ramp, so that a hard change of
note does not click.  The gain depends on the position inside the step alone,
which lets a render stop anywhere and go on later.
-/

namespace PulseTracker

structure StepFade where
  stepLength : Nat
  deriving DecidableEq, Repr

namespace StepFade

def maxLength : Nat := 128

/-- Length of each ramp: a sixth of the step, at most `maxLength`. -/
def length (fade : StepFade) : Nat :=
  min maxLength (fade.stepLength / 6)

/-- Gain in `[0, 1]` at a position of the step.  Positions past its end are silent. -/
def gain (fade : StepFade) (position : Nat) : Float32 :=
  let length := fade.length
  if length = 0 then 1
  else if position < length then
    clampTo 0 1 (position.toUInt64.toFloat32 / length.toUInt64.toFloat32)
  else if position + length > fade.stepLength then
    clampTo 0 1 ((fade.stepLength - position).toUInt64.toFloat32 / length.toUInt64.toFloat32)
  else clampTo 0 1 1

end StepFade

end PulseTracker
