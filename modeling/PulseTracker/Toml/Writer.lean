import PulseTracker.Store.Table
import PulseTracker.Toml.Chars

/-!
# Writing a table as TOML

One line `key = value` for every entry, in the order of the keys.  Of the ways
to write a string, the first one that needs no escapes but those of tabs is
taken; the choice depends on the characters that occur and on runs of quotes.
-/

namespace PulseTracker.Toml

def hasTriple (q : Char) : List Char → Bool
  | a :: b :: c :: rest => (a = q && b = q && c = q) || hasTriple q (b :: c :: rest)
  | _ => false

/-- A character of a basic string, escaped where it has to be; quotes are not looked at. -/
def escapeControl (c : Char) : List Char :=
  if c = '\x08' then ['\\', 'b']
  else if c = '\t' then ['\\', 't']
  else if c = '\n' then ['\\', 'n']
  else if c = '\x0c' then ['\\', 'f']
  else if c = '\r' then ['\\', 'r']
  else if c = '\\' then ['\\', '\\']
  else if isControl c then
    ['\\', 'u', '0', '0', hexDigit (c.toNat / 16), hexDigit (c.toNat % 16)]
  else [c]

def escapedLine (text : List Char) : List Char :=
  text.flatMap fun c => if c = doubleQuote then ['\\', doubleQuote] else escapeControl c

/-- A string on several lines: newlines stay, and every third quote of a run is escaped.
`run` counts the quotes just written. -/
def escapedLines : Nat → List Char → List Char
  | _, [] => []
  | run, c :: rest =>
      if c = doubleQuote then
        if run = 2 then '\\' :: c :: escapedLines 0 rest else c :: escapedLines (run + 1) rest
      else if c = '\n' then c :: escapedLines 0 rest
      else escapeControl c ++ escapedLines 0 rest

def between (delimiter text : List Char) : List Char := delimiter ++ text ++ delimiter

def basicForm (text : List Char) : List Char := between [doubleQuote] (escapedLine text)

def literalForm (text : List Char) : List Char := between [singleQuote] text

/-- A text that has any newline begins on a line of its own. -/
def onLines (value text : List Char) : List Char :=
  if value.contains '\n' then '\n' :: text else text

def basicLinesForm (text : List Char) : List Char :=
  between [doubleQuote, doubleQuote, doubleQuote] (onLines text (escapedLines 0 text))

def literalLinesForm (text : List Char) : List Char :=
  between [singleQuote, singleQuote, singleQuote] (onLines text text)

def keyChars (key : List Char) : List Char :=
  if !key.isEmpty && key.all isBareKeyChar then key
  else if !key.any fun c => isControl c || c = '\\' || c = doubleQuote then basicForm key
  else if !key.any fun c => isControl c || c = singleQuote then literalForm key
  else basicForm key

def valueChars (value : List Char) : List Char :=
  if !value.any fun c => isControl c || c = '\\' || c = doubleQuote then basicForm value
  else if !value.any fun c => isControl c || c = singleQuote then literalForm value
  else if !(value.any fun c => isLineControl c || c = '\\') && !hasTriple doubleQuote value then
    basicLinesForm value
  else if !value.any isLineControl && !hasTriple singleQuote value then literalLinesForm value
  else if value.contains '\n' then basicLinesForm value
  else basicForm value

def entryChars (entry : String × String) : List Char :=
  keyChars entry.1.toList ++ [' ', '=', ' '] ++ valueChars entry.2.toList ++ ['\n']

def tableChars (table : Table) : List Char := table.entries.flatMap entryChars

def write (table : Table) : String := String.ofList (tableChars table)

end PulseTracker.Toml
