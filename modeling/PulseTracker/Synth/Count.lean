/-!
# Counts of samples

Lengths and periods are levels that are rounded to whole numbers of samples.
-/

namespace PulseTracker.Synth

def countMax : Nat := UInt64.size - 1

/-- The whole number nearest to a level that is not negative, halves up; none is above
`countMax`. -/
def nearestWhole (level : Float32) : Nat :=
  let whole := level.toUInt64
  if level - whole.toFloat32 ≥ 0.5 then min countMax (whole.toNat + 1) else whole.toNat

theorem nearestWhole_le_countMax (level : Float32) : nearestWhole level ≤ countMax := by
  unfold nearestWhole
  dsimp only
  split
  · exact Nat.min_le_left _ _
  · exact Nat.le_pred_of_lt level.toUInt64.toNat_lt

end PulseTracker.Synth
