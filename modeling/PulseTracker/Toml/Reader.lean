import PulseTracker.Store.Table
import PulseTracker.Toml.Chars

/-!
# Reading a table from TOML

A text is read if it is a TOML document whose entries are all strings at the top
level.  Comments and blank lines may stand between them.  Everything else a
document can hold, and every text that is no document, is refused as a whole.
-/

namespace PulseTracker.Toml

/-- A value that was read, and the text after it. -/
abbrev Reading (α : Type) := Option (α × List Char)

/-! ## Characters -/

/-- The end of a line: a newline, a carriage return and a newline, or the end of the text. -/
def lineEnd : List Char → Option (List Char)
  | [] => some []
  | '\n' :: rest => some rest
  | '\r' :: '\n' :: rest => some rest
  | _ => none

def newline? : List Char → Option (List Char)
  | '\n' :: rest => some rest
  | '\r' :: '\n' :: rest => some rest
  | _ => none

def skipBlanks (text : List Char) : List Char := text.dropWhile isBlank

def scalar? (n : Nat) : Option Char :=
  if h : n.isValidChar then some (Char.ofNatAux n h) else none

def numberedEscape (count : Nat) (text : List Char) : Reading Char :=
  let digits := text.take count
  if digits.length = count then
    ((hexNumber? digits).bind scalar?).map fun c => (c, text.drop count)
  else none

def namedEscape? (c : Char) : Option Char :=
  if c = 'b' then some '\x08'
  else if c = 't' then some '\t'
  else if c = 'n' then some '\n'
  else if c = 'f' then some '\x0c'
  else if c = 'r' then some '\r'
  else if c = doubleQuote then some doubleQuote
  else if c = '\\' then some '\\'
  else none

def readEscape : List Char → Reading Char
  | [] => none
  | c :: rest =>
      if c = 'u' then numberedEscape 4 rest
      else if c = 'U' then numberedEscape 8 rest
      else (namedEscape? c).map fun c => (c, rest)

/-! ## Strings

Each reader begins behind the opening quotes.  The first argument bounds the number of
characters and is taken from the length of the text. -/

def Reading.push (c : Char) (reading : Reading (List Char)) : Reading (List Char) :=
  reading.map fun r => (c :: r.1, r.2)

def readBasic : Nat → List Char → Reading (List Char)
  | 0, _ => none
  | _ + 1, [] => none
  | fuel + 1, c :: rest =>
      if c = doubleQuote then some ([], rest)
      else if c = '\\' then
        (readEscape rest).bind fun r => Reading.push r.1 (readBasic fuel r.2)
      else if isControl c then none
      else Reading.push c (readBasic fuel rest)

def readLiteral : List Char → Reading (List Char)
  | [] => none
  | c :: rest =>
      if c = singleQuote then some ([], rest)
      else if isControl c then none
      else Reading.push c (readLiteral rest)

def quoteRun (q : Char) (text : List Char) : Nat := (text.takeWhile (· = q)).length

/-- The end of a string of several lines, for a text that begins with at least three quotes:
up to two quotes may stand before the closing three. -/
def closeLines (q : Char) (text : List Char) : List Char × List Char :=
  let inside := min 2 (quoteRun q text - 3)
  (List.replicate inside q, text.drop (inside + 3))

/-- Blanks and newlines behind an escaped line end. -/
def skipLines : Nat → List Char → List Char
  | 0, text => text
  | fuel + 1, text =>
      match newline? text with
      | some rest => skipLines fuel rest
      | none =>
          match text with
          | c :: rest => if isBlank c then skipLines fuel rest else c :: rest
          | [] => []

/-- What follows a backslash at the end of a line, if only blanks stand between. -/
def escapedLineEnd (text : List Char) : Option (List Char) :=
  (newline? (skipBlanks text)).map fun rest => skipLines rest.length rest

def readBasicLines : Nat → List Char → Reading (List Char)
  | 0, _ => none
  | _ + 1, [] => none
  | fuel + 1, c :: rest =>
      if c = doubleQuote then
        if 3 ≤ quoteRun doubleQuote (c :: rest) then some (closeLines doubleQuote (c :: rest))
        else Reading.push c (readBasicLines fuel rest)
      else if c = '\\' then
        match escapedLineEnd rest with
        | some rest => readBasicLines fuel rest
        | none => (readEscape rest).bind fun r => Reading.push r.1 (readBasicLines fuel r.2)
      else
        match newline? (c :: rest) with
        | some rest => Reading.push '\n' (readBasicLines fuel rest)
        | none => if isControl c then none else Reading.push c (readBasicLines fuel rest)

def readLiteralLines : Nat → List Char → Reading (List Char)
  | 0, _ => none
  | _ + 1, [] => none
  | fuel + 1, c :: rest =>
      if c = singleQuote then
        if 3 ≤ quoteRun singleQuote (c :: rest) then some (closeLines singleQuote (c :: rest))
        else Reading.push c (readLiteralLines fuel rest)
      else
        match newline? (c :: rest) with
        | some rest => Reading.push '\n' (readLiteralLines fuel rest)
        | none => if isControl c then none else Reading.push c (readLiteralLines fuel rest)

/-- A newline right behind the opening quotes does not belong to the string. -/
def skipFirstNewline (text : List Char) : List Char := (newline? text).getD text

/-! ## Entries -/

def readKey (text : List Char) : Reading (List Char) :=
  match text with
  | [] => none
  | c :: rest =>
      if c = doubleQuote then readBasic (rest.length + 1) rest
      else if c = singleQuote then readLiteral rest
      else if isBareKeyChar c then
        some (text.takeWhile isBareKeyChar, text.dropWhile isBareKeyChar)
      else none

def readValue (text : List Char) : Reading (List Char) :=
  match text with
  | [] => none
  | c :: rest =>
      if c = doubleQuote then
        if 3 ≤ quoteRun c text then
          let body := skipFirstNewline (text.drop 3)
          readBasicLines (body.length + 1) body
        else readBasic (rest.length + 1) rest
      else if c = singleQuote then
        if 3 ≤ quoteRun c text then
          let body := skipFirstNewline (text.drop 3)
          readLiteralLines (body.length + 1) body
        else readLiteral rest
      else none

def restOfLine (text : List Char) : Option (List Char) :=
  match skipBlanks text with
  | '#' :: comment => lineEnd (comment.dropWhile fun c => !isControl c)
  | text => lineEnd text

def readEntry (text : List Char) : Reading (String × String) :=
  (readKey text).bind fun key =>
    match skipBlanks key.2 with
    | '=' :: rest =>
        (readValue (skipBlanks rest)).bind fun value =>
          (restOfLine value.2).map fun rest =>
            ((String.ofList key.1, String.ofList value.1), rest)
    | _ => none

def readEntries : Nat → List Char → Option (List (String × String))
  | 0, _ => none
  | fuel + 1, text =>
      match skipBlanks text with
      | [] => some []
      | c :: rest =>
          if c = '#' ∨ (newline? (c :: rest)).isSome then
            (restOfLine (c :: rest)).bind (readEntries fuel)
          else
            (readEntry (c :: rest)).bind fun entry =>
              (readEntries fuel entry.2).map (entry.1 :: ·)

/-- Put entries into a table one by one; a key that is there already is refused. -/
def collect : List (String × String) → Table → Option Table
  | [], table => some table
  | (key, value) :: rest, table =>
      if (table.get? key).isSome then none else collect rest (table.insert key value)

/-- A mark in front of a text that says how its bytes are ordered; it is skipped. -/
def byteOrderMark : Char := '\uFEFF'

def skipMark (text : List Char) : List Char :=
  match text with
  | c :: rest => if c = byteOrderMark then rest else text
  | [] => []

def readChars (text : List Char) : Option Table :=
  let text := skipMark text
  (readEntries (text.length + 1) text).bind (collect · .empty)

def read? (text : String) : Option Table := readChars text.toList

end PulseTracker.Toml
