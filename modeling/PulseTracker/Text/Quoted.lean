import PulseTracker.Text.Printable

/-!
# Quoted text

A text between double quotes, in which every character that a reader could not
see is written as an escape.
-/

namespace PulseTracker.Text

def codePointText (c : Char) : List Char :=
  '\\' :: 'u' :: '\x7b' :: Nat.toDigits 16 c.toNat ++ ['\x7d']

def escapeChar (c : Char) : List Char :=
  if c = '\x22' then ['\\', c]
  else if c = '\\' then ['\\', c]
  else if c = '\n' then ['\\', 'n']
  else if c = '\r' then ['\\', 'r']
  else if c = '\t' then ['\\', 't']
  else if c = '\x00' then ['\\', '0']
  else if isPrintable c then [c]
  else codePointText c

def quotedChars (text : List Char) : List Char :=
  '\x22' :: text.flatMap escapeChar ++ ['\x22']

def quoted (text : String) : String := String.ofList (quotedChars text.toList)

end PulseTracker.Text
