import PulseTracker.Decimal.Fixed

/-!
# The shortest decimal that reads back

Of all decimals that round to a given number, the one with the fewest digits is
written; of several with equally few, the one nearest to the number.  It is
always written out in full, without an exponent.

The numbers that round to `m * 2 ^ e` fill an interval around it.  Its ends are
half a unit away, except below a power of two, where the lower neighbour is only
half as far; they belong to the interval when `m` is even.  Everything is scaled
by four, so that the ends are whole multiples of `2 ^ (e - 2)`.
-/

namespace PulseTracker.Decimal

structure RoundingInterval where
  low : Nat
  point : Nat
  high : Nat
  den : Nat
  closed : Bool
  deriving DecidableEq, Repr

namespace RoundingInterval

/-- The interval of numbers that round to `mantissa * 2 ^ exponent`. -/
def around (mantissa : Nat) (exponent : Int) : RoundingInterval :=
  let below := if mantissa = hiddenBit ∧ -149 < exponent then 1 else 2
  let (scale, den) := ratio 1 (exponent - 2)
  { low := (4 * mantissa - below) * scale
    point := 4 * mantissa * scale
    high := (4 * mantissa + 2) * scale
    den
    closed := mantissa % 2 = 0 }

def contains (interval : RoundingInterval) (num den : Nat) : Bool :=
  let value := num * interval.den
  if interval.closed then
    decide (interval.low * den ≤ value) && decide (value ≤ interval.high * den)
  else decide (interval.low * den < value) && decide (value < interval.high * den)

/-- The neighbour of the point on the grid of `10 ^ power` that lies inside the interval, as a
multiple of the grid; of two, the nearer one, and the upper one of two equally near. -/
def onGrid? (interval : RoundingInterval) (power : Int) : Option Nat :=
  let grid := if 0 ≤ power then (Nat.pow 10 power.toNat, 1) else (1, Nat.pow 10 (-power).toNat)
  let num := interval.point * grid.2
  let den := interval.den * grid.1
  let lower := num / den
  let inside (k : Nat) := interval.contains (k * grid.1) grid.2
  if inside lower && inside (lower + 1) then
    some (if 2 * (num % den) < den then lower else lower + 1)
  else if inside lower then some lower
  else if inside (lower + 1) then some (lower + 1)
  else none

def search (interval : RoundingInterval) : Nat → Int → Option (Nat × Int)
  | 0, _ => none
  | count + 1, power =>
      match interval.onGrid? power with
      | some multiple => some (multiple, power)
      | none => search interval count (power - 1)

end RoundingInterval

/-- Largest power of ten that a single-precision number reaches. -/
def topPower : Int := 39

/-- Powers of ten to search: the finest spacing of the numbers is above `10 ^ -46`. -/
def powerCount : Nat := 90

def positional (multiple : Nat) (power : Int) : List Char :=
  if 0 ≤ power then Nat.toDigits 10 (multiple * Nat.pow 10 power.toNat)
  else placesText (-power).toNat multiple

def shortestChars (x : Float32) : List Char :=
  match Parts.of x with
  | .nan => "NaN".toList
  | .infinite negative => signText negative ++ "inf".toList
  | .finite negative mantissa exponent =>
      if mantissa = 0 then signText negative ++ ['0']
      else
        match (RoundingInterval.around mantissa exponent).search powerCount topPower with
        | some (multiple, power) => signText negative ++ positional multiple power
        | none => signText negative ++ ['0']

def shortest (x : Float32) : String := String.ofList (shortestChars x)

end PulseTracker.Decimal
