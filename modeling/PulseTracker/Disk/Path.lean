import PulseTracker.Audio.Error
import PulseTracker.Text.Split

/-!
# Paths

A path is a list of names between slashes.  Empty names do not count; `.` stays
where it is and `..` goes up.  A slash at the end asks for a directory.  The
length of a path and of each of its names is limited.
-/

namespace PulseTracker

structure Path where
  absolute : Bool
  names : List String
  slash : Bool
  deriving DecidableEq, Repr

namespace Path

def ofText (text : String) : Path :=
  let names := (Text.pieces '/' text.toList).map String.ofList
  { absolute := text.toList.head? = some '/'
    names := names.filter fun name => !name.isEmpty
    slash := text.toList.getLast? = some '/' }

def sizeLimit : Nat := 4095

def nameLimit : Nat := 255

def read (text : String) : Except FileError Path :=
  if text.toList.contains '\x00' then .error .endedName
  else if text.utf8ByteSize > sizeLimit then .error .nameTooLong
  else .ok (.ofText text)

/-- Whether a piece of a path leads to no other place. -/
def isIdle (piece : List Char) : Bool := piece.isEmpty || piece = ['.']

/-- The pieces of a path up to the last one that leads to another place. -/
def trimmed (pieces : List (List Char)) : List (List Char) :=
  (pieces.reverse.dropWhile isIdle).reverse

def parentText (text : String) : String :=
  let pieces := trimmed (Text.pieces '/' text.toList)
  String.ofList (List.intercalate ['/'] (trimmed pieces.dropLast))

def inside (directory text : String) : String :=
  let pieces := (Text.pieces '/' text.toList).drop (Text.pieces '/' directory.toList).length
  String.ofList (List.intercalate ['/'] (trimmed (pieces.dropWhile isIdle)))

end Path

/-- A place on the disk, as the names that lead to it from the working directory, or from the
root if the first one is a slash. -/
abbrev Place := List String

namespace Place

def origin (path : Path) : Place := if path.absolute then ["/"] else []

def isOrigin (place : Place) : Bool :=
  place = ["/"] || place.all (· = "..")

def step (place : Place) (name : String) : Place :=
  if name = "." then place
  else if name = ".." then
    if place = ["/"] then place
    else if place.isOrigin then place ++ [".."]
    else place.dropLast
  else place ++ [name]

end Place

end PulseTracker
