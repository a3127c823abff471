import Mathlib.Logic.ExistsUnique
import PulseTracker.StepFade

/-!
# The two ramps of a step

A ramp is at most a sixth of its step, so the two never meet.  The gain is then a function of how
deep inside the step a position is, which is the same from either end.
-/

namespace PulseTracker.StepFade

/-- How far a position is from the nearer end of its step, counted as far as a ramp reaches. -/
def depth (fade : StepFade) (position : Nat) : Nat :=
  min (min position fade.length) (fade.stepLength - position)

inductive Part where
  | rise
  | hold
  | fall

/-- The positions of a part.  What lies past the end of the step counts as its fall. -/
def Part.Covers (fade : StepFade) (position : Nat) : Part → Prop
  | .rise => position < fade.length
  | .hold => fade.length ≤ position ∧ position + fade.length ≤ fade.stepLength
  | .fall => fade.stepLength < position + fade.length

theorem six_mul_length_le (fade : StepFade) : 6 * fade.length ≤ fade.stepLength := by
  have hsixth : fade.length ≤ fade.stepLength / 6 := Nat.min_le_right _ _
  omega

theorem existsUnique_part (fade : StepFade) (position : Nat) :
    ∃! part : Part, part.Covers fade position := by
  have hlength := fade.six_mul_length_le
  by_cases hrise : position < fade.length
  · refine ⟨.rise, hrise, fun part hpart => ?_⟩
    cases part with
    | rise => rfl
    | hold => exact absurd hpart.1 (Nat.not_le.mpr hrise)
    | fall =>
        change fade.stepLength < position + fade.length at hpart
        omega
  · by_cases hfall : fade.stepLength < position + fade.length
    · refine ⟨.fall, hfall, fun part hpart => ?_⟩
      cases part with
      | rise => exact absurd hpart hrise
      | hold => exact absurd hpart.2 (Nat.not_le.mpr hfall)
      | fall => rfl
    · refine ⟨.hold, ⟨Nat.not_lt.mp hrise, Nat.not_lt.mp hfall⟩, fun part hpart => ?_⟩
      cases part with
      | rise => exact absurd hpart hrise
      | hold => rfl
      | fall => exact absurd hpart hfall

/-! ## The gain of a depth -/

def Part.depth (fade : StepFade) (position : Nat) : Part → Nat
  | .rise => position
  | .hold => fade.length
  | .fall => fade.stepLength - position

theorem Part.Covers.depth_eq {fade : StepFade} {position : Nat} {part : Part}
    (h : part.Covers fade position) : fade.depth position = part.depth fade position := by
  have hlength := fade.six_mul_length_le
  cases part with
  | rise =>
      change position < fade.length at h
      simp only [StepFade.depth, Part.depth]
      omega
  | hold =>
      obtain ⟨hstart, hend⟩ := h
      simp only [StepFade.depth, Part.depth]
      omega
  | fall =>
      change fade.stepLength < position + fade.length at h
      simp only [StepFade.depth, Part.depth]
      omega

theorem clampTo_one : clampTo 0 1 1 = 1 := by decide

theorem gain_eq (fade : StepFade) (position : Nat) :
    fade.gain position =
      if fade.length = 0 ∨ fade.depth position = fade.length then 1
      else clampTo 0 1
        ((fade.depth position).toUInt64.toFloat32 / fade.length.toUInt64.toFloat32) := by
  have hlength := fade.six_mul_length_le
  by_cases hzero : fade.length = 0
  · simp [gain, hzero]
  obtain ⟨part, hpart, -⟩ := fade.existsUnique_part position
  have hdepth := hpart.depth_eq
  cases part with
  | rise =>
      change position < fade.length at hpart
      change fade.depth position = position at hdepth
      rw [if_neg (by omega), hdepth, gain]
      simp only [if_neg hzero, if_pos hpart]
  | hold =>
      change fade.depth position = fade.length at hdepth
      rw [if_pos (Or.inr hdepth), gain]
      simp only [if_neg hzero, if_neg (Nat.not_lt.mpr hpart.1),
        if_neg (Nat.not_lt.mpr hpart.2), clampTo_one]
  | fall =>
      change fade.stepLength < position + fade.length at hpart
      change fade.depth position = fade.stepLength - position at hdepth
      rw [if_neg (by omega), hdepth, gain]
      simp only [if_neg hzero, if_neg (show ¬position < fade.length by omega), if_pos hpart]

theorem gain_congr {fade : StepFade} {a b : Nat} (h : fade.depth a = fade.depth b) :
    fade.gain a = fade.gain b := by
  rw [gain_eq, gain_eq, h]

theorem depth_reflect {fade : StepFade} {position : Nat} (h : position ≤ fade.stepLength) :
    fade.depth (fade.stepLength - position) = fade.depth position := by
  have hlength := fade.six_mul_length_le
  unfold depth
  omega

theorem depth_past_end {fade : StepFade} {position : Nat} (h : fade.stepLength ≤ position) :
    fade.depth position = fade.depth 0 := by
  unfold depth
  omega

/--
The gain is known from the depth alone.  Every position is in one part of the step only, which says
how deep it is; the gain is the same seen from either end, and past the end it is the gain of the
first sample.
-/
theorem gain_of_depth (fade : StepFade) :
    (∀ position, fade.gain position =
      if fade.length = 0 ∨ fade.depth position = fade.length then 1
      else clampTo 0 1
        ((fade.depth position).toUInt64.toFloat32 / fade.length.toUInt64.toFloat32)) ∧
    (∀ position, ∃! part : Part, part.Covers fade position) ∧
    (∀ position (part : Part), part.Covers fade position →
      fade.depth position = part.depth fade position) ∧
    (∀ position ≤ fade.stepLength,
      fade.gain position = fade.gain (fade.stepLength - position)) ∧
    (∀ position, fade.stepLength ≤ position → fade.gain position = fade.gain 0) := by
  refine ⟨fade.gain_eq, fade.existsUnique_part, fun position part h => h.depth_eq,
    fun position h => ?_, fun position h => ?_⟩
  · exact gain_congr (depth_reflect h).symm
  · exact gain_congr (depth_past_end h)

theorem gain_of_depth_of_a_long_step :
    Part.fall.Covers ⟨1000⟩ 873 ∧ depth ⟨1000⟩ 873 = 127 ∧
      gain ⟨1000⟩ 873 = gain ⟨1000⟩ 127 ∧ gain ⟨1000⟩ 5000 = gain ⟨1000⟩ 0 := by
  obtain ⟨-, -, hparts, hsame, hpast⟩ := gain_of_depth ⟨1000⟩
  have hfall : Part.fall.Covers ⟨1000⟩ 873 := by
    change 1000 < 873 + length ⟨1000⟩
    decide
  exact ⟨hfall, hparts 873 .fall hfall, hsame 873 (by decide), hpast 5000 (by decide)⟩

end PulseTracker.StepFade
