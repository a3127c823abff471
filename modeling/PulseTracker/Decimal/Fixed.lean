import PulseTracker.Decimal.Nearest

/-!
# Decimals with a fixed number of places

The exact value is rounded to the last place, and a half goes to the even
neighbour.  The sign of a zero is kept.
-/

namespace PulseTracker.Decimal

def paddedDigits (width n : Nat) : List Char :=
  let digits := Nat.toDigits 10 n
  List.replicate (width - digits.length) '0' ++ digits

/-- A count of units of the last place, written with a point. -/
def placesText (places units : Nat) : List Char :=
  let whole := Nat.toDigits 10 (units / Nat.pow 10 places)
  if places = 0 then whole
  else whole ++ '.' :: paddedDigits places (units % Nat.pow 10 places)

def fixedChars (places : Nat) (x : Float32) : List Char :=
  match Parts.of x with
  | .nan => "NaN".toList
  | .infinite negative => signText negative ++ "inf".toList
  | .finite negative mantissa exponent =>
      let (num, den) := ratio mantissa exponent
      signText negative ++ placesText places (roundDiv (num * Nat.pow 10 places) den)

def fixed (places : Nat) (x : Float32) : String := String.ofList (fixedChars places x)

end PulseTracker.Decimal
