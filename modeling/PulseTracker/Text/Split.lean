import PulseTracker.Text.Blank

/-!
# Splitting text

A text of `n` separators has `n + 1` pieces, empty ones included.  Words are the
runs of characters between blanks, and are never empty.
-/

namespace PulseTracker.Text

/-- The piece before the first separator, and the pieces after it. -/
def piecesAt (separator : Char) : List Char → List Char × List (List Char)
  | [] => ([], [])
  | c :: rest =>
      let (first, more) := piecesAt separator rest
      if c = separator then ([], first :: more) else (c :: first, more)

def pieces (separator : Char) (text : List Char) : List (List Char) :=
  (piecesAt separator text).1 :: (piecesAt separator text).2

def cutAt (separator : Char) : List Char → Option (List Char × List Char)
  | [] => none
  | c :: rest =>
      if c = separator then some ([], rest)
      else (cutAt separator rest).map fun parts => (c :: parts.1, parts.2)

/-- The word that begins the text, if its first character is no blank, and the words after it. -/
def wordsFrom : List Char → List Char × List (List Char)
  | [] => ([], [])
  | c :: rest =>
      let (first, more) := wordsFrom rest
      if isBlank c then ([], if first.isEmpty then more else first :: more)
      else (c :: first, more)

def words (text : List Char) : List (List Char) :=
  let (first, more) := wordsFrom text
  if first.isEmpty then more else first :: more

/-- The lines of a text without their ends, which are a newline or a carriage return and a
newline.  A newline at the very end begins no further line. -/
def lines (text : List Char) : List (List Char) :=
  let (first, more) := piecesAt '\n' text
  let all := first :: more
  let ended := all.dropLast.map fun line =>
    if line.getLast? = some '\r' then line.dropLast else line
  match all.getLast? with
  | some (c :: rest) => ended ++ [c :: rest]
  | _ => ended

end PulseTracker.Text
