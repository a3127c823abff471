import Mathlib
import PulseTracker.Proofs.Single.Fields
import PulseTracker.Synth.Basic

/-!
# Magnitudes of single-precision numbers

A number is enclosed by a power of two above it, and a divisor by one below it.  That is enough to
say that a length or a period in samples is far from where counts end.
-/

namespace PulseTracker

namespace Magnitude

open Float.Model (Format UnpackedFloat totalExponent)
open Float.Model.UnpackedFloat
open Single

/-- Finite or no number, and nearer to zero than `2 ^ bound`. -/
def Below (bound : Int) : UnpackedFloat → Prop
  | .notANumber | .zero _ => True
  | .infinity _ => False
  | .finite _ mantissa exponent _ => mantissa < 2 ^ (bound - exponent).toNat

/-- Finite, and at least as far from zero as `2 ^ bound`. -/
def AtLeast (bound : Int) : UnpackedFloat → Prop
  | .notANumber | .zero _ | .infinity _ => False
  | .finite _ mantissa exponent _ => 2 ^ (bound - exponent).toNat ≤ mantissa

instance (bound : Int) (number : UnpackedFloat) : Decidable (Below bound number) :=
  match number with
  | .notANumber | .zero _ => isTrue trivial
  | .infinity _ => isFalse id
  | .finite _ mantissa exponent _ =>
      inferInstanceAs (Decidable (mantissa < 2 ^ (bound - exponent).toNat))

instance (bound : Int) (number : UnpackedFloat) : Decidable (AtLeast bound number) :=
  match number with
  | .notANumber | .zero _ | .infinity _ => isFalse id
  | .finite _ mantissa exponent _ =>
      inferInstanceAs (Decidable (2 ^ (bound - exponent).toNat ≤ mantissa))

/-! ## Rounding -/

theorem shiftRight_mantissa (extended : ExtendedMantissa) (count : Nat) :
    (extended >>> count).mantissa = extended.mantissa / 2 ^ count := by
  induction count with
  | zero => simp [HShiftRight.hShiftRight, Nat.repeat]
  | succ count ih =>
      change (extended >>> count).mantissa / 2 = _
      rw [ih, Nat.div_div_eq_div_mul, Nat.pow_succ]

theorem ofMantissaAndAccuracy_mantissa (mantissa : Nat) (accuracy : Accuracy) :
    (ExtendedMantissa.ofMantissaAndAccuracy mantissa accuracy).mantissa = mantissa := by
  rcases accuracy with _ | order
  · rfl
  · cases order with
    | lt | eq | gt => rfl

theorem roundedMantissa_bounds (extended : ExtendedMantissa) :
    extended.mantissa ≤ extended.roundedMantissa ∧
      extended.roundedMantissa ≤ extended.mantissa + 1 := by
  obtain ⟨mantissa, roundBit, stickyBit⟩ := extended
  cases roundBit <;> cases stickyBit <;>
    simp [ExtendedMantissa.roundedMantissa, ExtendedMantissa.accuracy,
      Accuracy.roundToNearestEven]
  omega

def shiftCount (mantissa : Nat) (exponent : Int) : Nat :=
  (Format.binary32.targetExponent (totalExponent mantissa exponent) - exponent).toNat

theorem targetExponent_eq (mantissa : Nat) (exponent : Int) :
    Format.binary32.targetExponent (totalExponent mantissa exponent) =
      max (mantissa.log2 + exponent - 23) (-149) := by
  simp only [Format.targetExponent, totalExponent, Format.mantissaBits, Format.minExponent]
  omega

theorem shiftToTargetExponent_mantissa (mantissa : Nat) (exponent : Int) (accuracy : Accuracy) :
    (shiftToTargetExponent Format.binary32 mantissa exponent accuracy).1.mantissa =
      mantissa / 2 ^ shiftCount mantissa exponent := by
  simp only [shiftToTargetExponent, shiftToExponent, shiftRight_mantissa,
    ofMantissaAndAccuracy_mantissa, shiftCount]

theorem shiftToTargetExponent_exponent (mantissa : Nat) (exponent : Int) (accuracy : Accuracy) :
    (shiftToTargetExponent Format.binary32 mantissa exponent accuracy).2 =
      exponent + shiftCount mantissa exponent := rfl

theorem div_two_pow_lt {bound exponent : Int} {mantissa : Nat} (count : Nat)
    (h : mantissa < 2 ^ (bound - exponent).toNat) :
    mantissa / 2 ^ count < 2 ^ (bound - (exponent + count)).toNat := by
  rw [Nat.div_lt_iff_lt_mul (Nat.two_pow_pos count), ← Nat.pow_add]
  exact Nat.lt_of_lt_of_le h (Nat.pow_le_pow_right (by decide) (by omega))

theorem log2_lt_of_lt {mantissa count : Nat} (hmantissa : mantissa ≠ 0)
    (h : mantissa < 2 ^ count) : mantissa.log2 < count :=
  (Nat.log2_lt hmantissa).mpr h

theorem roundWithAccuracy_below (sign : Sign) {mantissa : Nat} {exponent bound : Int}
    (accuracy : Accuracy) (hbound : -149 ≤ bound) (hexponent : exponent ≤ bound)
    (h : mantissa < 2 ^ (bound - exponent).toNat) :
    Below (bound + 1) (roundWithAccuracy Format.binary32 sign mantissa exponent accuracy) := by
  have hshift : exponent + shiftCount mantissa exponent ≤ bound := by
    have hlog : mantissa.log2 ≤ (bound - exponent).toNat := by
      by_cases hzero : mantissa = 0
      · simp [hzero]
      · exact Nat.le_of_lt (log2_lt_of_lt hzero h)
    simp only [shiftCount, targetExponent_eq]
    omega
  have hshifted := div_two_pow_lt (shiftCount mantissa exponent) h
  rw [← shiftToTargetExponent_mantissa mantissa exponent accuracy] at hshifted
  have hrounded :=
    (roundedMantissa_bounds (shiftToTargetExponent Format.binary32 mantissa exponent accuracy).1).2
  have hdouble : 2 ^ (bound - (exponent + shiftCount mantissa exponent)).toNat <
      2 ^ (bound + 1 - (exponent + shiftCount mantissa exponent)).toNat :=
    Nat.pow_lt_pow_right (by decide) (by omega)
  unfold roundWithAccuracy
  dsimp only
  split
  · trivial
  · rw [Below, shiftToTargetExponent_mantissa, shiftToTargetExponent_exponent]
    apply div_two_pow_lt
    omega

theorem carry_of_full (rounded : Nat) (exponent : Int) (hlow : 2 ^ 23 ≤ rounded)
    (hhigh : rounded ≤ 2 ^ 24) (hexponent : -149 ≤ exponent) :
    ∃ carry ≤ 1, shiftCount rounded exponent = carry ∧ (rounded / 2 ^ carry).log2 = 23 := by
  rcases Nat.lt_or_eq_of_le hhigh with hlt | rfl
  · have hlog : rounded.log2 = 23 := (Nat.log2_eq_iff (by omega)).mpr ⟨hlow, hlt⟩
    refine ⟨0, by decide, ?_, by simpa using hlog⟩
    simp only [shiftCount, targetExponent_eq, hlog]
    omega
  · refine ⟨1, by decide, ?_, by decide⟩
    simp only [shiftCount, targetExponent_eq, Nat.log2_two_pow]
    omega

theorem roundWithAccuracy_full (sign : Sign) {mantissa : Nat} {exponent : Int}
    (accuracy : Accuracy) (hmantissa : 23 ≤ mantissa.log2)
    (hexponent : -126 ≤ mantissa.log2 + exponent) :
    ∃ (rounded : Nat) (last : Int) (hpos : 0 < rounded),
      roundWithAccuracy Format.binary32 sign mantissa exponent accuracy =
          .finite sign rounded last hpos ∧
        rounded.log2 = 23 ∧ mantissa.log2 + exponent ≤ last + 23 ∧
        last + 23 ≤ mantissa.log2 + exponent + 1 := by
  have hcount : shiftCount mantissa exponent = mantissa.log2 - 23 := by
    simp only [shiftCount, targetExponent_eq]
    omega
  have hne : mantissa ≠ 0 := by
    rintro rfl
    simp at hmantissa
  have hlow : 2 ^ 23 ≤ mantissa / 2 ^ (mantissa.log2 - 23) := by
    rw [Nat.le_div_iff_mul_le (Nat.two_pow_pos _), ← Nat.pow_add, Nat.add_sub_cancel' hmantissa]
    exact Nat.log2_self_le hne
  have hhigh : mantissa / 2 ^ (mantissa.log2 - 23) < 2 ^ 24 := by
    rw [Nat.div_lt_iff_lt_mul (Nat.two_pow_pos _), ← Nat.pow_add]
    exact Nat.lt_of_lt_of_le Nat.lt_log2_self (Nat.pow_le_pow_right (by decide) (by omega))
  have hshifted := shiftToTargetExponent_mantissa mantissa exponent accuracy
  have hrounded :=
    roundedMantissa_bounds (shiftToTargetExponent Format.binary32 mantissa exponent accuracy).1
  rw [hshifted, hcount] at hrounded
  have hlast := shiftToTargetExponent_exponent mantissa exponent accuracy
  rw [hcount] at hlast
  unfold roundWithAccuracy
  dsimp only
  generalize (shiftToTargetExponent Format.binary32 mantissa exponent accuracy).1.roundedMantissa =
    rounded at hrounded
  rw [hlast]
  obtain ⟨carry, hcarry, hcount', hlog⟩ :=
    carry_of_full rounded (exponent + (mantissa.log2 - 23 : Nat)) (by omega) (by omega) (by omega)
  have hfull : (shiftToTargetExponent Format.binary32 rounded
      (exponent + (mantissa.log2 - 23 : Nat)) .exact).1.mantissa = rounded / 2 ^ carry := by
    rw [shiftToTargetExponent_mantissa, hcount']
  have hpos : rounded / 2 ^ carry ≠ 0 := by
    intro hzero
    simp [hzero] at hlog
  rw [dif_neg (hfull ▸ hpos)]
  refine ⟨_, _, _, rfl, hfull ▸ hlog, ?_⟩
  rw [shiftToTargetExponent_exponent, hcount']
  omega

/-! ## Packing -/

theorem unpack_normal (sign : Sign) {exponent : BitVec 8} (mantissa : BitVec 23)
    (hzero : exponent ≠ 0#8) (hmax : exponent ≠ -1#8) :
    ∃ sign' hpos, unpack Format.binary32 (packComponents Format.binary32 sign exponent mantissa) =
      .finite sign' (2 ^ 23 + mantissa.toNat) (exponent.toNat - 150) hpos := by
  rw [unpack_packComponents, ofFields, if_neg hmax, if_neg hzero]
  exact ⟨_, Nat.add_pos_left (Nat.two_pow_pos 23) _, rfl⟩

theorem unpack_subnormal (sign : Sign) (mantissa : BitVec 23) {bound : Int}
    (hbound : -126 ≤ bound) :
    Below bound
      (unpack Format.binary32 (packComponents Format.binary32 sign 0#8 mantissa)) := by
  rw [unpack_packComponents, ofFields, if_neg (by decide), if_pos rfl]
  split
  · trivial
  · have hpow : 2 ^ 23 ≤ 2 ^ (bound - (-149)).toNat :=
      Nat.pow_le_pow_right (by decide) (by omega)
    exact Nat.lt_of_lt_of_le mantissa.isLt hpow

/-- A mantissa that fills the format fills it after packing, with the same exponent. -/
theorem unpack_pack_full (sign : Sign) {mantissa : Nat} {exponent : Int} (hpos : 0 < mantissa)
    (hmantissa : mantissa.log2 = 23) (hlow : -149 ≤ exponent) (hhigh : exponent ≤ 103) :
    ∃ (sign' : Sign) (mantissa' : Nat) (hpos' : 0 < mantissa'),
      unpack Format.binary32 (pack Format.binary32 (.finite sign mantissa exponent hpos)) =
        .finite sign' mantissa' exponent hpos' ∧ mantissa'.log2 = 23 := by
  have htoNat : (BitVec.ofNat 8 (exponent + 150).toNat).toNat = (exponent + 150).toNat := by
    rw [BitVec.toNat_ofNat, Nat.mod_eq_of_lt (by omega)]
  have hzero : BitVec.ofNat 8 (exponent + 150).toNat ≠ 0#8 := by
    intro h
    rw [h] at htoNat
    simp only [BitVec.toNat_ofNat] at htoNat
    omega
  have hmax : BitVec.ofNat 8 (exponent + 150).toNat ≠ -1#8 := by
    intro h
    rw [h] at htoNat
    simp only [BitVec.toNat_neg, BitVec.toNat_ofNat] at htoNat
    omega
  obtain ⟨sign', hpos', hunpack⟩ := unpack_normal sign (BitVec.ofNat 23 mantissa) hzero hmax
  have hexponent : ((BitVec.ofNat 8 (exponent + 150).toNat).toNat : Int) - 150 = exponent := by
    rw [htoNat]
    omega
  rw [hexponent] at hunpack
  rw [pack_finite sign hpos (by omega), if_pos hmantissa]
  refine ⟨sign', _, hpos', hunpack, ?_⟩
  have hlt := (BitVec.ofNat 23 mantissa).isLt
  rw [Nat.log2_eq_iff (by omega)]
  omega

theorem unpack_pack_below {number : UnpackedFloat} {bound : Int} (hlow : -126 ≤ bound)
    (hhigh : bound ≤ 104) (h : Below bound number) :
    Below bound (unpack Format.binary32 (pack Format.binary32 number)) := by
  cases number with
  | notANumber => trivial
  | infinity sign => cases h
  | zero sign => exact unpack_subnormal sign 0#23 hlow
  | finite sign mantissa exponent hpos =>
      have hlog : mantissa.log2 < (bound - exponent).toNat :=
        log2_lt_of_lt (Nat.ne_of_gt hpos) h
      by_cases hfull : mantissa.log2 = 23 ∧ -149 ≤ exponent
      · obtain ⟨sign', mantissa', hpos', hunpack, hlog'⟩ :=
          unpack_pack_full sign hpos hfull.1 hfull.2 (by omega)
        rw [hunpack, Below, ← Nat.log2_lt (Nat.ne_of_gt hpos'), hlog', ← hfull.1]
        exact hlog
      · rw [pack_finite sign hpos (by omega)]
        split
        · rw [show (exponent + 150).toNat = 0 by omega]
          exact unpack_subnormal sign _ hlow
        · exact unpack_subnormal sign _ hlow

/-! ## Operations -/

theorem mul_below {left right : UnpackedFloat} {a b : Int} (hbound : -149 ≤ a + b)
    (hleft : Below a left) (hright : Below b right) :
    Below (a + b + 1) (mul Format.binary32 left right) := by
  cases left with
  | notANumber => trivial
  | infinity _ => cases hleft
  | zero _ =>
      cases right with
      | infinity _ => cases hright
      | notANumber | zero _ | finite _ _ _ _ => trivial
  | finite sign mantissa exponent hpos =>
      cases right with
      | infinity _ => cases hright
      | notANumber | zero _ => trivial
      | finite sign' mantissa' exponent' hpos' =>
          have hlog := log2_lt_of_lt (Nat.ne_of_gt hpos) hleft
          have hlog' := log2_lt_of_lt (Nat.ne_of_gt hpos') hright
          apply roundWithAccuracy_below _ _ hbound (by omega)
          calc mantissa * mantissa'
              < 2 ^ (a - exponent).toNat * 2 ^ (b - exponent').toNat :=
                Nat.mul_lt_mul'' hleft hright
            _ = 2 ^ (a + b - (exponent + exponent')).toNat := by
                rw [← Nat.pow_add]
                congr 1
                omega

theorem div_below {left right : UnpackedFloat} {a b : Int} (hbound : -149 ≤ a - b)
    (hleft : Below a left) (hright : AtLeast b right) :
    Below (a - b + 1) (div Format.binary32 left right) := by
  cases right with
  | notANumber | zero _ | infinity _ => cases hright
  | finite sign' mantissa' exponent' hpos' =>
      cases left with
      | infinity _ => cases hleft
      | notANumber | zero _ => trivial
      | finite sign mantissa exponent hpos =>
          have hlog := log2_lt_of_lt (Nat.ne_of_gt hpos) hleft
          have hlog' : (b - exponent').toNat ≤ mantissa'.log2 :=
            (Nat.le_log2 (Nat.ne_of_gt hpos')).mpr hright
          have htarget : Format.binary32.targetExponent
              (totalExponent mantissa exponent - totalExponent mantissa' exponent') ≤ a - b := by
            simp only [Format.targetExponent, totalExponent, Format.mantissaBits,
              Format.minExponent]
            omega
          simp only [div, divCore]
          generalize Format.binary32.targetExponent
            (totalExponent mantissa exponent - totalExponent mantissa' exponent') = target
            at htarget
          generalize hquotient : min (exponent - exponent') target = quotient
          apply roundWithAccuracy_below _ _ hbound (by omega)
          rw [Nat.div_lt_iff_lt_mul hpos', Nat.shiftLeft_eq]
          calc mantissa * 2 ^ (exponent - exponent' - quotient).toNat
              < 2 ^ (a - exponent).toNat * 2 ^ (exponent - exponent' - quotient).toNat :=
                Nat.mul_lt_mul_of_pos_right hleft (Nat.two_pow_pos _)
            _ ≤ 2 ^ (a - b - quotient).toNat * 2 ^ (b - exponent').toNat := by
                rw [← Nat.pow_add, ← Nat.pow_add]
                exact Nat.pow_le_pow_right (by decide) (by omega)
            _ ≤ 2 ^ (a - b - quotient).toNat * mantissa' := Nat.mul_le_mul_left _ hright

theorem roundToInt_lt (sign : Sign) {mantissa bound : Nat} {exponent : Int}
    (hpos : 0 < mantissa) (h : mantissa < 2 ^ (bound - exponent).toNat) :
    roundToInt sign mantissa exponent < 2 ^ bound := by
  have hlog := log2_lt_of_lt (Nat.ne_of_gt hpos) h
  simp only [roundToInt, decreaseExponent, shiftToExponent, shiftRight_mantissa,
    ofMantissaAndAccuracy_mantissa, Nat.shiftLeft_eq]
  have hwhole : mantissa * 2 ^ (exponent - 0).toNat /
      2 ^ (0 - (exponent - (exponent - 0).toNat)).toNat < 2 ^ bound := by
    rw [Nat.div_lt_iff_lt_mul (Nat.two_pow_pos _)]
    calc mantissa * 2 ^ (exponent - 0).toNat
        < 2 ^ (bound - exponent).toNat * 2 ^ (exponent - 0).toNat :=
          Nat.mul_lt_mul_of_pos_right h (Nat.two_pow_pos _)
      _ ≤ 2 ^ bound * 2 ^ (0 - (exponent - (exponent - 0).toNat)).toNat := by
          rw [← Nat.pow_add, ← Nat.pow_add]
          exact Nat.pow_le_pow_right (by decide) (by omega)
  generalize mantissa * 2 ^ (exponent - 0).toNat /
    2 ^ (0 - (exponent - (exponent - 0).toNat)).toNat = whole at hwhole
  have hcast : (whole : Int) < 2 ^ bound := by exact_mod_cast hwhole
  cases sign with
  | positive => exact hcast
  | negative =>
      simp only [Sign.apply]
      omega

theorem toUInt64_lt {number : UnpackedFloat} {bound : Nat} (h : Below bound number) :
    number.toUInt64.toNat < 2 ^ bound := by
  have hclamp (n : Nat) : (UInt64.ofNatClamp n).toNat ≤ n := by
    unfold UInt64.ofNatClamp
    split
    · simp
    · rename_i hlarge
      simp only [UInt64.size] at hlarge
      simp
      omega
  refine Nat.lt_of_le_of_lt (hclamp _) ?_
  cases number with
  | notANumber | zero _ => exact Nat.two_pow_pos bound
  | infinity _ => cases h
  | finite sign mantissa exponent hpos =>
      have hlt := roundToInt_lt sign hpos h
      simp only [UnpackedFloat.toInt]
      have hcast : ((2 ^ bound : Nat) : Int) = 2 ^ bound := by simp
      have := Nat.two_pow_pos bound
      omega

/-! ## Conversions -/

theorem ofNat_full {n : Nat} (hpos : 0 < n) (hlt : n < 2 ^ 32) :
    ∃ (sign : Sign) (mantissa : Nat) (exponent : Int) (hmantissa : 0 < mantissa),
      (Float32.Model.ofNat n).unpack = .finite sign mantissa exponent hmantissa ∧
        mantissa.log2 = 23 ∧ 0 ≤ exponent + 23 ∧ exponent + 23 ≤ 32 := by
  have hne : n ≠ 0 := Nat.ne_of_gt hpos
  have hlog : n.log2 < 32 := log2_lt_of_lt hne hlt
  let places := (0 - Format.binary32.targetExponent (totalExponent n 0)).toNat
  have hplaces : places = 23 - n.log2 := by
    simp only [places, targetExponent_eq]
    omega
  have hshifted : (n <<< places).log2 = n.log2 + places := by
    rw [Nat.shiftLeft_eq, Nat.log2_eq_iff (Nat.ne_of_gt (Nat.mul_pos hpos (Nat.two_pow_pos _)))]
    constructor
    · rw [Nat.pow_add]
      exact Nat.mul_le_mul_right _ (Nat.log2_self_le hne)
    · rw [Nat.add_right_comm, Nat.pow_add]
      exact Nat.mul_lt_mul_of_pos_right Nat.lt_log2_self (Nat.two_pow_pos _)
  have hstart : 23 ≤ (n <<< places).log2 := by omega
  have hexponent : -126 ≤ ((n <<< places).log2 : Int) + (0 - places) := by omega
  obtain ⟨rounded, last, hrounded, hround, hfull, hlow, hhigh⟩ :=
    roundWithAccuracy_full .positive .exact hstart hexponent
  obtain ⟨sign, mantissa, hmantissa, hunpack, hfull'⟩ :=
    unpack_pack_full .positive hrounded hfull (show -149 ≤ last by omega) (by omega)
  refine ⟨sign, mantissa, last, hmantissa, ?_, hfull', by omega, by omega⟩
  rw [← hunpack, ← hround]
  have hcompare : compare (n : Int) 0 = .gt := Int.compare_eq_gt.mpr (by omega)
  simp only [Float32.Model.ofNat, UnpackedFloat.ofNat, UnpackedFloat.ofInt,
    UnpackedFloat.normalize, hcompare]
  rfl

theorem toFloat32_below (n : UInt32) : Below 33 n.toFloat32.toModel.unpack := by
  by_cases hzero : n = 0
  · rw [hzero]
    decide
  · obtain ⟨sign, mantissa, exponent, hmantissa, hunpack, hfull, -, hhigh⟩ :=
      ofNat_full (UInt32.lt_iff_toNat_lt.mp (UInt32.pos_iff_ne_zero.mpr hzero)) n.toNat_lt
    change Below 33 (Float32.Model.ofNat n.toNat).unpack
    rw [hunpack, Below, ← Nat.log2_lt (Nat.ne_of_gt hmantissa)]
    omega

theorem toFloat32_atLeast {n : UInt32} (hpos : 0 < n) :
    AtLeast 0 n.toFloat32.toModel.unpack := by
  obtain ⟨sign, mantissa, exponent, hmantissa, hunpack, hfull, hlow, -⟩ :=
    ofNat_full (UInt32.lt_iff_toNat_lt.mp hpos) n.toNat_lt
  change AtLeast 0 (Float32.Model.ofNat n.toNat).unpack
  rw [hunpack, AtLeast, ← Nat.le_log2 (Nat.ne_of_gt hmantissa)]
  omega

theorem Float32.mul_below {left right : Float32} {a b : Int} (hlow : -127 ≤ a + b)
    (hhigh : a + b ≤ 103) (hleft : Below a left.toModel.unpack)
    (hright : Below b right.toModel.unpack) : Below (a + b + 1) (left * right).toModel.unpack :=
  unpack_pack_below (by omega) (by omega) (Magnitude.mul_below (by omega) hleft hright)

theorem Float32.div_below {left right : Float32} {a b : Int} (hlow : -127 ≤ a - b)
    (hhigh : a - b ≤ 103) (hleft : Below a left.toModel.unpack)
    (hright : AtLeast b right.toModel.unpack) :
    Below (a - b + 1) (left / right).toModel.unpack :=
  unpack_pack_below (by omega) (by omega) (Magnitude.div_below (by omega) hleft hright)

end Magnitude

namespace Synth

theorem nearestWhole_le (level : Float32) : nearestWhole level ≤ level.toUInt64.toNat + 1 := by
  unfold nearestWhole
  dsimp only
  split
  · exact Nat.min_le_right _ _
  · exact Nat.le_succ _

/-- A step is shorter than about a trillion samples: at its slowest it takes fifteen seconds. -/
theorem stepLength_le (synth : Synth) (bpm : UInt32) : synth.stepLength bpm ≤ 2 ^ 40 := by
  have hbpm : 0 < max bpm 1 := by
    show 0 < if bpm ≤ 1 then 1 else bpm
    split
    · decide
    · rename_i habove
      exact UInt32.lt_trans (by decide) (UInt32.not_le.mp habove)
  have hminute : Magnitude.Below 6 (60 : Float32).toModel.unpack := by decide
  have hfour : Magnitude.AtLeast 2 (4 : Float32).toModel.unpack := by decide
  have hbeat := Magnitude.Float32.div_below (by decide) (by decide) hminute
    (Magnitude.toFloat32_atLeast hbpm)
  have hstep := Magnitude.Float32.div_below (by decide) (by decide) hbeat hfour
  have hsamples := Magnitude.Float32.mul_below (by decide) (by decide) hstep
    (Magnitude.toFloat32_below synth.rate)
  have hwhole : _ < 2 ^ 40 := Magnitude.toUInt64_lt hsamples
  exact Nat.max_le.mpr ⟨by decide, Nat.le_trans (nearestWhole_le _) hwhole⟩

theorem patternLength_of_sixteen (synth : Synth) {pattern : Pattern} (bpm : UInt32)
    (h : pattern.steps = 16) :
    synth.patternLength pattern bpm = synth.stepLength bpm * pattern.steps := by
  have hstep := synth.stepLength_le bpm
  apply Nat.min_eq_right
  rw [h, countMax, UInt64.size]
  omega

end Synth

theorem noiseClock_atLeast (pitch : UInt8) :
    Magnitude.AtLeast 4 (noiseClock /
      ((1 : UInt16) <<< (min pitch noisePitchMax).toUInt16).toFloat32).toModel.unpack := by
  have hclocks : ∀ k : Fin 8, Magnitude.AtLeast 4 (noiseClock /
      ((1 : UInt16) <<< (UInt8.ofNat k).toUInt16).toFloat32).toModel.unpack := by decide
  have hpitch : (min pitch noisePitchMax).toNat ≤ 7 := by
    show (if pitch ≤ 7 then pitch else 7).toNat ≤ 7
    split
    case isTrue hlow => exact UInt8.le_iff_toNat_le.mp hlow
    case isFalse => decide
  simpa using hclocks ⟨(min pitch noisePitchMax).toNat, Nat.lt_succ_of_le hpitch⟩

theorem noisePeriod_le (pitch : UInt8) (rate : UInt32) :
    (noisePeriod pitch rate).toNat ≤ 0x7FFFFFFF := by
  have hperiod := Magnitude.Float32.div_below (by decide) (by decide)
    (Magnitude.toFloat32_below rate) (noiseClock_atLeast pitch)
  have hwhole : _ < 2 ^ 30 := Magnitude.toUInt64_lt hperiod
  have hnearest := Nat.le_trans (Synth.nearestWhole_le _) hwhole
  unfold noisePeriod
  dsimp only
  rw [UInt32.toNat_ofNatClamp_of_lt (by rw [UInt32.size]; omega)]
  omega

end PulseTracker
