import PulseTracker.Decimal.Parts

/-!
# Rounding to the nearest

Quotients of whole numbers, rounded once: to a whole number, or to a
single-precision number.  A half goes to the even neighbour.
-/

namespace PulseTracker.Decimal

/-- The quotient nearest to `num / den`; a half goes to the even neighbour. -/
def roundDiv (num den : Nat) : Nat :=
  let q := num / den
  let twice := 2 * (num % den)
  if twice < den then q
  else if den < twice then q + 1
  else if q % 2 = 0 then q else q + 1

/-- Twice the rounding error is at most one unit. -/
theorem roundDiv_near (num den : Nat) (h : 0 < den) :
    2 * num ≤ 2 * (den * roundDiv num den) + den ∧
      2 * (den * roundDiv num den) ≤ 2 * num + den := by
  have split := Nat.div_add_mod num den
  have small := Nat.mod_lt num h
  unfold roundDiv
  dsimp only
  split
  · omega
  · split
    · rw [Nat.mul_add]
      omega
    · split
      · omega
      · rw [Nat.mul_add]
        omega

def infiniteBits : Nat := 0x7F800000

def infinity : Float32 := Float32.ofBits infiniteBits.toUInt32

/-- The bits of the number nearest to `num / den`.  Finite numbers are counted in units of the
smallest one, `2 ^ -149`; a number that needs more than 24 binary places loses the lowest of them,
and every place lost raises the exponent field by one. -/
def nearestBits (num den : Nat) : Nat :=
  let units := num * Nat.pow 2 149
  let lost := Nat.log2 (units / den) - 23
  min infiniteBits (lost * hiddenBit + roundDiv units (den * Nat.pow 2 lost))

def nearest (num den : Nat) : Float32 := Float32.ofBits (nearestBits num den).toUInt32

end PulseTracker.Decimal
