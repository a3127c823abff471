/-!
# Characters of a TOML text

Which characters may stand where, and the escapes of the quoted forms.
-/

namespace PulseTracker.Toml

def doubleQuote : Char := '\x22'

def singleQuote : Char := '\x27'

def isBlank (c : Char) : Bool := c = ' ' || c = '\t'

def isBareKeyChar (c : Char) : Bool := c.isAlphanum || c = '_' || c = '-'

/-- Controls but the tab; the newline is one. -/
def isControl (c : Char) : Bool := (c.toNat < 0x20 && c ≠ '\t') || c = '\x7f'

/-- Controls but the tab and the newline. -/
def isLineControl (c : Char) : Bool := isControl c && c ≠ '\n'

def hexValue? (c : Char) : Option Nat :=
  if '0' ≤ c ∧ c ≤ '9' then some (c.toNat - 48)
  else if 'a' ≤ c ∧ c ≤ 'f' then some (c.toNat - 87)
  else if 'A' ≤ c ∧ c ≤ 'F' then some (c.toNat - 55)
  else none

def hexNumber? (digits : List Char) : Option Nat :=
  digits.foldl
    (fun number digit => number.bind fun n => (hexValue? digit).map (n * 16 + ·)) (some 0)

def hexDigit (n : Nat) : Char :=
  if n < 10 then Char.ofNat (48 + n) else Char.ofNat (55 + n)

end PulseTracker.Toml
