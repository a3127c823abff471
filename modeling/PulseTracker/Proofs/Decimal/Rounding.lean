import PulseTracker.Decimal.Fixed
import PulseTracker.Proofs.Single.Fields

/-!
# Rounding to a place and back

A number is counted in units of `2 ^ -149`, the smallest one.  Rounded to a decimal place it is a
count of units of that place, and the number nearest to that count is rounded to the same count
again as long as the binary places are the finer ones.
-/

namespace PulseTracker.Decimal

/-! ## Quotients -/

theorem roundDiv_mul_right (num den : Nat) {scale : Nat} (h : 0 < scale) :
    roundDiv (num * scale) (den * scale) = roundDiv num den := by
  have htwice : 2 * (num % den * scale) = 2 * (num % den) * scale := (Nat.mul_assoc _ _ _).symm
  simp only [roundDiv, Nat.mul_div_mul_right num den h, Nat.mul_mod_mul_right, htwice,
    Nat.mul_lt_mul_right h]

theorem roundDiv_eq_of_ratio {num den num' den' : Nat} (hden : 0 < den) (hden' : 0 < den')
    (h : num * den' = num' * den) : roundDiv num den = roundDiv num' den' := by
  calc roundDiv num den = roundDiv (num * den') (den * den') :=
        (roundDiv_mul_right num den hden').symm
    _ = roundDiv (num' * den) (den' * den) := by rw [h, Nat.mul_comm den den']
    _ = roundDiv num' den' := roundDiv_mul_right num' den' hden

theorem roundDiv_le {num den bound : Nat} (hden : 0 < den)
    (h : 2 * num < 2 * (den * bound) + den) : roundDiv num den ≤ bound := by
  have hnear := (roundDiv_near num den hden).2
  refine Nat.le_of_not_lt fun hlt => ?_
  have hstep : den * (bound + 1) ≤ den * roundDiv num den := Nat.mul_le_mul_left den hlt
  rw [Nat.mul_succ] at hstep
  omega

theorem le_roundDiv {num den bound : Nat} (hden : 0 < den)
    (h : 2 * (den * bound) < 2 * num + den) : bound ≤ roundDiv num den := by
  have hnear := (roundDiv_near num den hden).1
  refine Nat.le_of_not_lt fun hlt => ?_
  have hstep : den * (roundDiv num den + 1) ≤ den * bound := Nat.mul_le_mul_left den hlt
  rw [Nat.mul_succ] at hstep
  omega

theorem zero_roundDiv {den : Nat} (hden : 0 < den) : roundDiv 0 den = 0 :=
  Nat.le_zero.mp (roundDiv_le hden (by omega))

/-! ## Units -/

theorem hiddenBit_eq : hiddenBit = 2 ^ 23 := rfl

def significand (bits : Nat) : Nat :=
  if bits < hiddenBit then bits else hiddenBit + bits % hiddenBit

/-- The number of units of `2 ^ -149` in the number with these bits, which have no sign. -/
def units (bits : Nat) : Nat := significand bits * 2 ^ (bits / hiddenBit - 1)

theorem units_lost {lost rest : Nat} (hrest : rest ≤ 2 * hiddenBit)
    (hlost : lost = 0 ∨ hiddenBit ≤ rest) : units (lost * hiddenBit + rest) = rest * 2 ^ lost := by
  rw [units, significand]
  rw [hiddenBit_eq] at *
  by_cases hsmall : lost * 2 ^ 23 + rest < 2 ^ 23
  · have hzero : lost = 0 := by omega
    have hfield : (lost * 2 ^ 23 + rest) / 2 ^ 23 - 1 = lost := by omega
    rw [if_pos hsmall, hfield, hzero, Nat.zero_mul, Nat.zero_add]
  · rw [if_neg hsmall]
    rcases Nat.lt_or_eq_of_le hrest with hlt | rfl
    · have hfield : (lost * 2 ^ 23 + rest) / 2 ^ 23 - 1 = lost := by omega
      have hfraction : 2 ^ 23 + (lost * 2 ^ 23 + rest) % 2 ^ 23 = rest := by omega
      rw [hfield, hfraction]
    · -- the carry: no fraction, and the exponent one higher
      have hfield : (lost * 2 ^ 23 + 2 * 2 ^ 23) / 2 ^ 23 - 1 = lost + 1 := by omega
      have hfraction : 2 ^ 23 + (lost * 2 ^ 23 + 2 * 2 ^ 23) % 2 ^ 23 = 2 ^ 23 := by omega
      have hcarry : 2 ^ (lost + 1) = 2 * 2 ^ lost := Nat.pow_succ'
      rw [hfield, hfraction, hcarry]
      omega

theorem units_le {bits : Nat} (h : bits ≤ 127 * hiddenBit) : units bits ≤ 2 ^ 149 := by
  rw [units, significand]
  rw [hiddenBit_eq] at *
  rcases Nat.lt_or_eq_of_le h with hlt | rfl
  · have hsignificand : (if bits < 2 ^ 23 then bits else 2 ^ 23 + bits % 2 ^ 23) ≤ 2 ^ 24 := by
      split
      · omega
      · omega
    have hexponent : bits / 2 ^ 23 - 1 ≤ 125 := by omega
    calc (if bits < 2 ^ 23 then bits else 2 ^ 23 + bits % 2 ^ 23) * 2 ^ (bits / 2 ^ 23 - 1) ≤
          2 ^ 24 * 2 ^ 125 :=
          Nat.mul_le_mul hsignificand (Nat.pow_le_pow_right Nat.two_pos hexponent)
      _ = 2 ^ 149 := (Nat.pow_add 2 24 125).symm
  · decide

/-! ## Numbers with a fixed number of places -/

def isNegative (x : Float32) : Bool := 2 ^ 31 ≤ x.toBits.toNat

/-- The units of the last place in a number with so many places, rounded. -/
def placeUnits (places : Nat) (x : Float32) : Nat :=
  roundDiv (units (x.toBits.toNat % 2 ^ 31) * 10 ^ places) (2 ^ 149)

theorem Parts.of_finite {x : Float32} (h : x.toBits.toNat % 2 ^ 31 < infiniteBits) :
    Parts.of x = .finite (isNegative x) (significand (x.toBits.toNat % 2 ^ 31))
      ((x.toBits.toNat % 2 ^ 31 / hiddenBit - 1 : Nat) - 149) := by
  change _ < 255 * 2 ^ 23 at h
  have hbits := x.toBits.toNat_lt
  rw [Parts.of, significand, isNegative]
  generalize x.toBits.toNat = bits at *
  rw [hiddenBit_eq]
  have hfield : bits / 2 ^ 23 % 256 = bits % 2 ^ 31 / 2 ^ 23 := by omega
  have hfraction : bits % 2 ^ 23 = bits % 2 ^ 31 % 2 ^ 23 := by omega
  rw [hfield, hfraction, if_neg (by omega)]
  split
  · have hsmall : bits % 2 ^ 31 < 2 ^ 23 := by omega
    rw [if_pos hsmall, Nat.mod_eq_of_lt hsmall, Nat.div_eq_of_lt hsmall]
    rfl
  · have hexponent : ((bits % 2 ^ 31 / 2 ^ 23 : Nat) : Int) - 150 =
        ((bits % 2 ^ 31 / 2 ^ 23 - 1 : Nat) : Int) - 149 := by omega
    rw [if_neg (by omega)]
    exact congrArg (Parts.finite _ _) hexponent

theorem ratio_units (mantissa exponent : Nat) :
    (ratio mantissa (exponent - 149)).1 * 2 ^ 149 =
        mantissa * 2 ^ exponent * (ratio mantissa (exponent - 149)).2 ∧
      0 < (ratio mantissa (exponent - 149)).2 := by
  rw [ratio]
  split
  · have hplaces : ((exponent : Int) - 149).toNat + 149 = exponent := by omega
    refine ⟨?_, Nat.one_pos⟩
    rw [Nat.pow_eq, Nat.mul_one, Nat.mul_assoc, ← Nat.pow_add, hplaces]
  · have hplaces : exponent + (-((exponent : Int) - 149)).toNat = 149 := by omega
    refine ⟨?_, Nat.two_pow_pos _⟩
    rw [Nat.pow_eq, Nat.mul_assoc, ← Nat.pow_add, hplaces]

theorem fixedChars_eq (places : Nat) {x : Float32} (h : x.toBits.toNat % 2 ^ 31 < infiniteBits) :
    fixedChars places x = signText (isNegative x) ++ placesText places (placeUnits places x) := by
  rw [fixedChars, Parts.of_finite h]
  dsimp only
  obtain ⟨hunits, hden⟩ := ratio_units (significand (x.toBits.toNat % 2 ^ 31))
    (x.toBits.toNat % 2 ^ 31 / hiddenBit - 1)
  congr 2
  refine roundDiv_eq_of_ratio hden (Nat.two_pow_pos 149) ?_
  rw [Nat.pow_eq, Nat.mul_right_comm, hunits, Nat.mul_right_comm, units]

/-! ## The nearest number -/

/-- The binary places that the number nearest to a quotient has too few. -/
def lostPlaces (num den : Nat) : Nat := (num * 2 ^ 149 / den).log2 - 23

def keptUnits (num den : Nat) : Nat := roundDiv (num * 2 ^ 149) (den * 2 ^ lostPlaces num den)

theorem nearestBits_eq (num den : Nat) :
    nearestBits num den =
      min infiniteBits (lostPlaces num den * hiddenBit + keptUnits num den) := by
  rw [nearestBits, keptUnits, lostPlaces, Nat.pow_eq, Nat.pow_eq]

theorem toBits_nearest (num den : Nat) :
    (nearest num den).toBits.toNat = nearestBits num den := by
  have hle : nearestBits num den ≤ 255 * 2 ^ 23 := Nat.min_le_left _ _
  have hbits : (nearestBits num den).toUInt32.toNat = nearestBits num den :=
    UInt32.toNat_ofNat_of_lt' (by change _ < 2 ^ 32; omega)
  rw [nearest, Single.toBits_ofBits, hbits]
  rw [hbits]
  omega

section Places

variable (num : Nat) {den : Nat} (hden : 0 < den)

include hden

theorem lostPlaces_pos : 0 < den * 2 ^ lostPlaces num den :=
  Nat.mul_pos hden (Nat.two_pow_pos _)

theorem lt_lostPlaces : num * 2 ^ 149 < den * 2 ^ lostPlaces num den * (2 * hiddenBit) := by
  have hlog : (num * 2 ^ 149 / den).log2 + 1 ≤ lostPlaces num den + 24 := by
    rw [lostPlaces]
    omega
  have hquotient : num * 2 ^ 149 / den < 2 ^ (lostPlaces num den + 24) :=
    Nat.lt_of_lt_of_le Nat.lt_log2_self (Nat.pow_le_pow_right Nat.two_pos hlog)
  calc num * 2 ^ 149 < 2 ^ (lostPlaces num den + 24) * den :=
        (Nat.div_lt_iff_lt_mul hden).mp hquotient
    _ = den * 2 ^ lostPlaces num den * (2 * hiddenBit) := by
        rw [Nat.mul_comm, Nat.pow_add, ← Nat.mul_assoc]
        rfl

theorem lostPlaces_le (h : lostPlaces num den ≠ 0) :
    den * 2 ^ lostPlaces num den * hiddenBit ≤ num * 2 ^ 149 := by
  have hlog : (num * 2 ^ 149 / den).log2 = lostPlaces num den + 23 := by
    rw [lostPlaces] at h ⊢
    omega
  have hne : num * 2 ^ 149 / den ≠ 0 := by
    intro hzero
    rw [hzero, Nat.log2_zero] at hlog
    omega
  have hquotient := Nat.log2_self_le hne
  rw [hlog, Nat.le_div_iff_mul_le hden] at hquotient
  calc den * 2 ^ lostPlaces num den * hiddenBit = 2 ^ (lostPlaces num den + 23) * den := by
        rw [hiddenBit_eq, Nat.mul_assoc, ← Nat.pow_add, Nat.mul_comm]
    _ ≤ num * 2 ^ 149 := hquotient

theorem keptUnits_le : keptUnits num den ≤ 2 * hiddenBit := by
  have hlt := lt_lostPlaces num hden
  exact roundDiv_le (lostPlaces_pos num hden) (by omega)

theorem le_keptUnits (h : lostPlaces num den ≠ 0) : hiddenBit ≤ keptUnits num den := by
  have hpos := lostPlaces_pos num hden
  have hle := lostPlaces_le num hden h
  exact le_roundDiv hpos (by omega)

theorem nearestBits_le_one (h : num ≤ den) : nearestBits num den ≤ 127 * hiddenBit := by
  have hkept := keptUnits_le num hden
  have hlost : lostPlaces num den ≤ 126 := by
    refine Nat.le_of_not_lt fun hlt => ?_
    have hle := lostPlaces_le num hden (by omega)
    have hpow : den * 2 ^ 127 ≤ den * 2 ^ lostPlaces num den :=
      Nat.mul_le_mul_left den (Nat.pow_le_pow_right Nat.two_pos hlt)
    rw [hiddenBit_eq] at hle
    omega
  -- the one itself loses 126 places, and then nothing may be carried
  have hlast : lostPlaces num den = 126 → keptUnits num den ≤ hiddenBit := by
    intro heq
    refine roundDiv_le (lostPlaces_pos num hden) ?_
    rw [heq, hiddenBit_eq]
    omega
  rw [nearestBits_eq]
  refine Nat.le_trans (Nat.min_le_right _ _) ?_
  rw [hiddenBit_eq] at *
  rcases Nat.lt_or_eq_of_le hlost with hlt | heq
  · omega
  · have := hlast heq
    omega

theorem units_nearestBits (h : den * 2 ^ lostPlaces num den < 2 ^ 149) :
    nearestBits num den < infiniteBits ∧
      units (nearestBits num den) = keptUnits num den * 2 ^ lostPlaces num den := by
  have hkept := keptUnits_le num hden
  have hlost : lostPlaces num den < 149 :=
    (Nat.pow_lt_pow_iff_right Nat.one_lt_two).mp
      (Nat.lt_of_le_of_lt (Nat.le_mul_of_pos_left _ hden) h)
  have hbits : lostPlaces num den * hiddenBit + keptUnits num den < infiniteBits := by
    change _ < 255 * 2 ^ 23
    rw [hiddenBit_eq] at *
    omega
  rw [nearestBits_eq, Nat.min_eq_right (Nat.le_of_lt hbits)]
  refine ⟨hbits, units_lost hkept ?_⟩
  exact (Nat.eq_zero_or_pos _).imp_right fun hpos => le_keptUnits num hden (by omega)

end Places

/-- A count of decimal places is the count of the number nearest to it, whose binary places are
the finer ones. -/
theorem placeUnits_nearest {count places : Nat} (hcount : count < hiddenBit)
    (hplaces : 10 ^ places < 2 ^ 149) :
    (nearest count (10 ^ places)).toBits.toNat < infiniteBits ∧
      placeUnits places (nearest count (10 ^ places)) = count := by
  have hden : 0 < 10 ^ places := Nat.pow_pos (by decide)
  -- a count below `2 ^ 23` fills the places of a number only if the last one is finer than its own
  have hfine : 10 ^ places * 2 ^ lostPlaces count (10 ^ places) < 2 ^ 149 := by
    by_cases hnone : lostPlaces count (10 ^ places) = 0
    · rwa [hnone, Nat.pow_zero, Nat.mul_one]
    · have hle := lostPlaces_le count hden hnone
      rw [hiddenBit_eq] at hle hcount
      omega
  obtain ⟨hbits, hunits⟩ := units_nearestBits count hden hfine
  have hmod : nearestBits count (10 ^ places) % 2 ^ 31 = nearestBits count (10 ^ places) := by
    change _ < 255 * 2 ^ 23 at hbits
    omega
  rw [placeUnits, toBits_nearest, hmod]
  refine ⟨hbits, ?_⟩
  obtain ⟨hlow, hhigh⟩ := roundDiv_near (count * 2 ^ 149) _ (lostPlaces_pos count hden)
  rw [← keptUnits] at hlow hhigh
  have hswap : keptUnits count (10 ^ places) * 2 ^ lostPlaces count (10 ^ places) * 10 ^ places =
      10 ^ places * 2 ^ lostPlaces count (10 ^ places) * keptUnits count (10 ^ places) := by
    rw [Nat.mul_assoc, Nat.mul_comm, Nat.mul_comm (10 ^ places)]
  rw [hunits, hswap]
  apply Nat.le_antisymm
  · exact roundDiv_le (Nat.two_pow_pos 149) (by omega)
  · exact le_roundDiv (Nat.two_pow_pos 149) (by omega)

end PulseTracker.Decimal
