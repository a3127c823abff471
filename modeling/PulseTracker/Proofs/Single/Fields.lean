import Mathlib
import PulseTracker.Sample

/-!
# The fields of a single-precision number

A number is a sign, eight bits of exponent and twenty-three of fraction.  Its parts are read off
the fields, and the fields of a finite number are those of its parts.
-/

namespace PulseTracker.Single

open Float.Model (Format UnpackedFloat)
open Float.Model.UnpackedFloat

/-! ## Bits -/

theorem toNat_packComponents (sign : Sign) (exponent : BitVec 8) (fraction : BitVec 23) :
    (packComponents Format.binary32 sign exponent fraction).toNat =
      sign.toBitVec.toNat * 2 ^ 31 + exponent.toNat * 2 ^ 23 + fraction.toNat := by
  have hexponent := exponent.isLt
  have hfraction := fraction.isLt
  change (sign.toBitVec ++ exponent ++ fraction).toNat = _
  rw [BitVec.toNat_append, BitVec.toNat_append, ← Nat.shiftLeft_add_eq_or_of_lt fraction.isLt,
    ← Nat.shiftLeft_add_eq_or_of_lt exponent.isLt]
  simp only [Nat.shiftLeft_eq]
  omega

theorem toBitVec_ofBitVec (bit : BitVec 1) : (Sign.ofBitVec bit).toBitVec = bit := by
  revert bit
  decide

theorem exists_fields (bits : BitVec 32) :
    ∃ (sign : Sign) (exponent : BitVec 8) (fraction : BitVec 23),
      bits = packComponents Format.binary32 sign exponent fraction := by
  have hbits := bits.isLt
  refine ⟨Sign.ofBitVec (BitVec.ofNat 1 (bits.toNat / 2 ^ 31)),
    BitVec.ofNat 8 (bits.toNat / 2 ^ 23), BitVec.ofNat 23 bits.toNat, BitVec.eq_of_toNat_eq ?_⟩
  rw [toNat_packComponents, toBitVec_ofBitVec]
  simp only [BitVec.toNat_ofNat]
  omega

theorem unpackSign_packComponents (sign : Sign) (exponent : BitVec 8) (fraction : BitVec 23) :
    Sign.ofBitVec (unpackSign (packComponents Format.binary32 sign exponent fraction)) = sign := by
  have hexponent := exponent.isLt
  have hfraction := fraction.isLt
  have hsign : unpackSign (packComponents Format.binary32 sign exponent fraction) =
      sign.toBitVec := by
    apply BitVec.eq_of_toNat_eq
    rw [unpackSign, BitVec.toNat_cast, BitVec.extractLsb_toNat, toNat_packComponents,
      Nat.shiftRight_eq_div_pow]
    have hbit := sign.toBitVec.isLt
    change _ / 2 ^ 31 % 2 ^ 1 = _
    omega
  rw [hsign]
  cases sign with
  | negative => rfl
  | positive => rfl

/-! ## Numbers -/

def ofFields (sign : Sign) (exponent : BitVec 8) (fraction : BitVec 23) : UnpackedFloat :=
  if exponent = -1#8 then if fraction = 0#23 then .infinity sign else .notANumber
  else if exponent = 0#8 then
    if h : fraction = 0#23 then .zero sign
    else .finite sign fraction.toNat (-149)
      (Nat.pos_of_ne_zero fun hzero => h (BitVec.eq_of_toNat_eq hzero))
  else .finite sign (2 ^ 23 + fraction.toNat) (exponent.toNat - 150)
    (Nat.add_pos_left (Nat.two_pow_pos 23) _)

theorem toNat_implicit (fraction : BitVec 23) :
    (1#1 ++ fraction).toNat = 2 ^ 23 + fraction.toNat := by
  rw [BitVec.toNat_append, ← Nat.shiftLeft_add_eq_or_of_lt fraction.isLt]
  rfl

theorem unpack_packComponents (sign : Sign) (exponent : BitVec 8) (fraction : BitVec 23) :
    unpack Format.binary32 (packComponents Format.binary32 sign exponent fraction) =
      ofFields sign exponent fraction := by
  simp only [unpack, unpackExponent_packComponents, unpackMantissa_packComponents,
    unpackSign_packComponents, toNat_implicit, ofFields]
  split
  · rfl
  · split
    · rename_i hzero
      subst hzero
      rfl
    · rfl

theorem pack_finite (sign : Sign) {mantissa : Nat} {exponent : Int} (hpos : 0 < mantissa)
    (hexponent : exponent ≤ 104) :
    pack Format.binary32 (.finite sign mantissa exponent hpos) =
      if mantissa.log2 = 23 then
        packComponents Format.binary32 sign (BitVec.ofNat 8 (exponent + 150).toNat)
          (BitVec.ofNat 23 mantissa)
      else packComponents Format.binary32 sign 0#8 (BitVec.ofNat 23 mantissa) := by
  have hbias : exponent + Format.binary32.exponentBias + (23 : Nat) = exponent + 150 := by
    change exponent + 127 + 23 = exponent + 150
    omega
  have hbits : (mantissa.log2 + 1 = Format.binary32.mantissaBits) = (mantissa.log2 = 23) := by
    change (mantissa.log2 + 1 = 24) = _
    rw [Nat.add_right_cancel_iff (m := mantissa.log2) (k := 23) (n := 1)]
  simp only [pack, hbias, hbits]
  rw [if_neg (by omega)]

theorem pack_ofFields (sign : Sign) {exponent : BitVec 8} {fraction : BitVec 23}
    (h : exponent = -1#8 → fraction = 0#23) :
    pack Format.binary32 (ofFields sign exponent fraction) =
      packComponents Format.binary32 sign exponent fraction := by
  have hexponent := exponent.isLt
  have hfraction := fraction.isLt
  unfold ofFields
  split
  · rename_i hmax
    rw [if_pos (h hmax), hmax, h hmax]
    rfl
  · rename_i hmax
    have hlt : exponent.toNat ≠ 255 := fun heq => hmax (BitVec.eq_of_toNat_eq heq)
    split
    · rename_i hzero
      split
      · rename_i hnone
        rw [hzero, hnone]
        rfl
      · rename_i hsome
        have hne : fraction.toNat ≠ 0 := fun heq => hsome (BitVec.eq_of_toNat_eq heq)
        have hlog : ¬fraction.toNat.log2 = 23 := by
          have := (Nat.log2_lt hne).mpr hfraction
          omega
        rw [pack_finite sign _ (by decide), if_neg hlog, hzero, BitVec.ofNat_toNat,
          BitVec.setWidth_eq]
    · rename_i hzero
      have hne : exponent.toNat ≠ 0 := fun heq => hzero (BitVec.eq_of_toNat_eq heq)
      have hlog : (2 ^ 23 + fraction.toNat).log2 = 23 :=
        (Nat.log2_eq_iff (by omega)).mpr (by omega)
      have hback : ((exponent.toNat : Int) - 150 + 150).toNat = exponent.toNat := by omega
      have himplicit : BitVec.ofNat 23 (2 ^ 23 + fraction.toNat) = fraction := by
        apply BitVec.eq_of_toNat_eq
        rw [BitVec.toNat_ofNat]
        omega
      rw [pack_finite sign _ (by omega), if_pos hlog, hback, himplicit, BitVec.ofNat_toNat,
        BitVec.setWidth_eq]

theorem neg_ofFields (sign : Sign) (exponent : BitVec 8) (fraction : BitVec 23) :
    neg (ofFields sign exponent fraction) = ofFields (-sign) exponent fraction := by
  unfold ofFields
  split
  · split <;> rfl
  · split
    · split <;> rfl
    · rfl

/-! ## Their bits -/

theorem exists_fields_of_number {bits : UInt32} (h : bits.toNat % 2 ^ 31 ≤ 255 * 2 ^ 23) :
    ∃ (sign : Sign) (exponent : BitVec 8) (fraction : BitVec 23),
      bits.toBitVec = packComponents Format.binary32 sign exponent fraction ∧
      (exponent = -1#8 → fraction = 0#23) := by
  obtain ⟨sign, exponent, fraction, hbits⟩ := exists_fields bits.toBitVec
  refine ⟨sign, exponent, fraction, hbits, fun hmax => BitVec.eq_of_toNat_eq ?_⟩
  have hnat := congrArg BitVec.toNat hbits
  rw [toNat_packComponents, hmax] at hnat
  change bits.toNat = _ * 2 ^ 31 + 255 * 2 ^ 23 + _ at hnat
  change fraction.toNat = 0
  have hfraction := fraction.isLt
  omega

theorem toBits_ofBits {bits : UInt32} (h : bits.toNat % 2 ^ 31 ≤ 255 * 2 ^ 23) :
    (Float32.ofBits bits).toBits = bits := by
  obtain ⟨sign, exponent, fraction, hbits, hnumber⟩ := exists_fields_of_number h
  change UInt32.ofBitVec (pack Format.binary32 (unpack Format.binary32 bits.toBitVec)) = bits
  rw [hbits, unpack_packComponents, pack_ofFields sign hnumber, ← hbits]

theorem toBits_neg {x : Float32} (h : x.toBits.toNat % 2 ^ 31 ≤ 255 * 2 ^ 23) :
    (-x).toBits.toNat = (x.toBits.toNat + 2 ^ 31) % 2 ^ 32 := by
  obtain ⟨sign, exponent, fraction, hbits, hnumber⟩ := exists_fields_of_number h
  have hnat := congrArg BitVec.toNat hbits
  rw [toNat_packComponents] at hnat
  change x.toBits.toNat = _ at hnat
  have hexponent := exponent.isLt
  have hfraction := fraction.isLt
  change (pack Format.binary32 (neg (unpack Format.binary32 x.toBits.toBitVec))).toNat = _
  rw [hbits, unpack_packComponents, neg_ofFields, pack_ofFields _ hnumber, toNat_packComponents,
    hnat]
  cases sign with
  | negative =>
      change 0 * 2 ^ 31 + _ + _ = (1 * 2 ^ 31 + _ + _ + 2 ^ 31) % 2 ^ 32
      omega
  | positive =>
      change 1 * 2 ^ 31 + _ + _ = (0 * 2 ^ 31 + _ + _ + 2 ^ 31) % 2 ^ 32
      omega

/-! ## Order -/

theorem compare_then_swap (mantissa mantissa' : Nat) (exponent exponent' : Int) :
    ((compare exponent exponent').then (compare mantissa mantissa')).swap =
      (compare exponent' exponent).then (compare mantissa' mantissa) := by
  rw [Ordering.swap_then, Int.compare_swap, Nat.compare_swap]

theorem compare_swap (left right : UnpackedFloat) :
    right.compare left = (left.compare right).map Ordering.swap := by
  rcases left with (_ | _) | _ | (_ | _) | ⟨_ | _, mantissa, exponent, hpos⟩ <;>
    rcases right with (_ | _) | _ | (_ | _) | ⟨_ | _, mantissa', exponent', hpos'⟩ <;>
    try rfl
  -- only finite numbers of one sign have to be looked at
  · exact congrArg (some ·.swap) (compare_then_swap _ _ _ _).symm
  · exact congrArg some (compare_then_swap _ _ _ _).symm

theorem le_iff (x y : Float32) :
    x ≤ y ↔ (x.toModel.unpack.compare y.toModel.unpack).any (·.isLE) = true := by
  change decide _ = true ↔ _
  rw [decide_eq_true_eq]
  rfl

theorem lt_iff (x y : Float32) :
    x < y ↔ x.toModel.unpack.compare y.toModel.unpack = some .lt := by
  change decide ((_ == some Ordering.lt) = true) = true ↔ _
  rw [decide_eq_true_eq, beq_iff_eq]

theorem not_lt_of_le {x y : Float32} (h : x ≤ y) : ¬y < x := by
  rw [le_iff] at h
  rw [lt_iff, compare_swap]
  cases hcompare : x.toModel.unpack.compare y.toModel.unpack with
  | none => simp
  | some order =>
      rw [hcompare] at h
      cases order with
      | lt | eq => simp
      | gt => cases h

theorem clampTo_of_le {lo hi x : Float32} (hlo : lo ≤ x) (hhi : x ≤ hi) : clampTo lo hi x = x := by
  rw [clampTo, if_neg (not_lt_of_le hlo)]
  exact if_neg (not_lt_of_le hhi)

theorem isNaN_of_le {x y : Float32} (h : x ≤ y) : y.isNaN = false := by
  rw [le_iff] at h
  change y.toModel.unpack.isNaN = false
  cases hy : y.toModel.unpack with
  | notANumber =>
      rw [hy, compare_swap] at h
      cases h
  | infinity | zero | finite => rfl

theorem compare_one_isLE (mantissa : Nat) (exponent : Int) :
    ((compare exponent (-23)).then (compare mantissa (2 ^ 23))).isLE = true ↔
      exponent < -23 ∨ exponent = -23 ∧ mantissa ≤ 2 ^ 23 := by
  rw [Ordering.isLE_then_iff_or, Int.compare_eq_lt, Int.compare_eq_eq, Nat.isLE_compare]

theorem zero_le_le_one_fields (sign : Sign) (exponent : BitVec 8) (fraction : BitVec 23) :
    ((UnpackedFloat.zero .positive).compare (ofFields sign exponent fraction)).any (·.isLE) = true ∧
      ((ofFields sign exponent fraction).compare
        (.finite .positive (2 ^ 23) (-23) (Nat.two_pow_pos 23))).any (·.isLE) = true ↔
      sign = .positive ∧ exponent.toNat * 2 ^ 23 + fraction.toNat ≤ 127 * 2 ^ 23 ∨
        exponent.toNat * 2 ^ 23 + fraction.toNat = 0 := by
  have hexponent := exponent.isLt
  have hfraction := fraction.isLt
  unfold ofFields
  split
  · rename_i hmax
    have hnat : exponent.toNat = 255 := by rw [hmax]; rfl
    refine iff_of_false ?_ (by omega)
    split
    · cases sign <;> simp [UnpackedFloat.compare]
    · simp [UnpackedFloat.compare]
  · split
    · rename_i hzero
      have hnat : exponent.toNat = 0 := by rw [hzero]; rfl
      split
      · rename_i hnone
        refine iff_of_true ⟨rfl, rfl⟩ (Or.inr ?_)
        rw [hnat, hnone]
        rfl
      · rename_i hsome
        have hne : fraction.toNat ≠ 0 := fun heq => hsome (BitVec.eq_of_toNat_eq heq)
        cases sign with
        | negative =>
            refine iff_of_false (fun h => Bool.false_ne_true h.1) ?_
            simp only [reduceCtorEq, false_and, false_or]
            omega
        | positive => exact iff_of_true ⟨rfl, rfl⟩ (Or.inl ⟨rfl, by omega⟩)
    · rename_i hmax hzero
      have hne : exponent.toNat ≠ 0 := fun heq => hzero (BitVec.eq_of_toNat_eq heq)
      cases sign with
      | negative =>
          refine iff_of_false (fun h => Bool.false_ne_true h.1) ?_
          simp only [reduceCtorEq, false_and, false_or]
          omega
      | positive =>
          have hone := compare_one_isLE (2 ^ 23 + fraction.toNat) (exponent.toNat - 150)
          refine (and_iff_right rfl).trans (hone.trans ?_)
          simp only [true_and]
          omega

/-- The bits of the numbers from zero to one: those up to the bits of the one, and those of the
negative zero. -/
theorem zero_le_le_one_iff {x : Float32} :
    0 ≤ x ∧ x ≤ 1 ↔ x.toBits.toNat ≤ 127 * 2 ^ 23 ∨ x.toBits.toNat = 2 ^ 31 := by
  obtain ⟨sign, exponent, fraction, hbits⟩ := exists_fields x.toBits.toBitVec
  have hnumber : x.toModel.unpack = ofFields sign exponent fraction := by
    rw [← unpack_packComponents, ← hbits]
    rfl
  have hnat := congrArg BitVec.toNat hbits
  rw [toNat_packComponents] at hnat
  change x.toBits.toNat = _ at hnat
  have hexponent := exponent.isLt
  have hfraction := fraction.isLt
  have h := zero_le_le_one_fields sign exponent fraction
  rw [← hnumber] at h
  rw [le_iff, le_iff]
  refine h.trans ?_
  rw [hnat]
  cases sign with
  | negative =>
      change _ ↔ 1 * 2 ^ 31 + _ + _ ≤ _ ∨ 1 * 2 ^ 31 + _ + _ = _
      simp only [reduceCtorEq, false_and, false_or]
      omega
  | positive =>
      change _ ↔ 0 * 2 ^ 31 + _ + _ ≤ _ ∨ 0 * 2 ^ 31 + _ + _ = _
      simp only [true_and]
      omega

end PulseTracker.Single
