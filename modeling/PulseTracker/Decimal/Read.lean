import PulseTracker.Decimal.Nearest

/-!
# Reading decimals

The grammar of a number: an optional sign, then `inf`, `infinity` or `nan` in
any case, or digits with at most one point among or beside them and an optional
exponent.  The value is rounded once, to the nearest single-precision number.
-/

namespace PulseTracker.Decimal

def takeDigits (text : List Char) : List Char × List Char :=
  (text.takeWhile Char.isDigit, text.dropWhile Char.isDigit)

def digitsValue (digits : List Char) : Nat :=
  digits.foldl (fun value digit => value * 10 + (digit.toNat - 48)) 0

/-- The exponent after the digits, zero where there is none.  Nothing may follow it. -/
def readExponent : List Char → Option Int
  | [] => some 0
  | c :: rest =>
      if c = 'e' ∨ c = 'E' then
        let (negative, digits) :=
          match rest with
          | '-' :: digits => (true, digits)
          | '+' :: digits => (false, digits)
          | digits => (false, digits)
        if digits.isEmpty ∨ !digits.all Char.isDigit then none
        else if negative then some (-(digitsValue digits : Int))
        else some (digitsValue digits)
      else none

structure Numeral where
  whole : List Char
  fraction : List Char
  exponent : Int
  deriving DecidableEq, Repr

def readNumeral (text : List Char) : Option Numeral :=
  let (whole, rest) := takeDigits text
  let (fraction, rest) :=
    match rest with
    | '.' :: rest => takeDigits rest
    | rest => ([], rest)
  if whole.isEmpty ∧ fraction.isEmpty then none
  else (readExponent rest).map fun exponent => { whole, fraction, exponent }

/-- Numbers with more digits before the point than this are infinite, and numbers with as many
zeros behind it are zero. -/
def digitBound : Int := 60

def Numeral.value (numeral : Numeral) : Float32 :=
  let mantissa := digitsValue (numeral.whole ++ numeral.fraction)
  let exponent := numeral.exponent - numeral.fraction.length
  let top := ((Nat.toDigits 10 mantissa).length : Int) + exponent
  if mantissa = 0 ∨ top < -digitBound then 0
  else if digitBound < top then infinity
  else if 0 ≤ exponent then nearest (mantissa * Nat.pow 10 exponent.toNat) 1
  else nearest mantissa (Nat.pow 10 (-exponent).toNat)

def readMagnitude (text : List Char) : Option Float32 :=
  let word := text.map Char.toLower
  if word = "inf".toList ∨ word = "infinity".toList then some infinity
  else if word = "nan".toList then some (0 / 0)
  else (readNumeral text).map Numeral.value

def readChars : List Char → Option Float32
  | '-' :: text => (readMagnitude text).map fun x => -x
  | '+' :: text => readMagnitude text
  | text => readMagnitude text

def read? (text : String) : Option Float32 := readChars text.toList

end PulseTracker.Decimal
