/-!
# The parts of a single-precision number

A finite number is a sign and a whole multiple of a power of two.  The decimal
texts of this program are computed from these parts in exact arithmetic.
-/

namespace PulseTracker.Decimal

inductive Parts where
  | nan
  | infinite (negative : Bool)
  /-- The number `mantissa * 2 ^ exponent` with a sign, which a zero has as well. -/
  | finite (negative : Bool) (mantissa : Nat) (exponent : Int)
  deriving DecidableEq, Repr

def hiddenBit : Nat := 0x800000

def Parts.of (x : Float32) : Parts :=
  let bits := x.toBits.toNat
  let negative := 0x80000000 ≤ bits
  let field := bits / hiddenBit % 256
  let fraction := bits % hiddenBit
  if field = 255 then
    if fraction = 0 then .infinite negative else .nan
  else if field = 0 then .finite negative fraction (-149)
  else .finite negative (hiddenBit + fraction) ((field : Int) - 150)

def ratio (mantissa : Nat) (exponent : Int) : Nat × Nat :=
  if 0 ≤ exponent then (mantissa * Nat.pow 2 exponent.toNat, 1)
  else (mantissa, Nat.pow 2 (-exponent).toNat)

def signText (negative : Bool) : List Char := if negative then ['-'] else []

end PulseTracker.Decimal
