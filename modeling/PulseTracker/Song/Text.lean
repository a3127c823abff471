import PulseTracker.Song.Basic
import PulseTracker.Text.Split

/-!
# The song text

A song is saved as one line of fields:

    tempo=120;d2=2;ns=0;p1=60,-1,...;p2=...;nz=...;

The three lists have sixteen entries, and a rest is `-1`.  Reading accepts any
text: a field that is missing or unreadable keeps its default, a value out of
range moves to the nearest one allowed, and short lists are filled up with rests.
The first segment that carries a key decides that field.
-/

namespace PulseTracker.Song

open PulseTracker.Text

/-! ## Writing -/

def entryText : Option UInt8 → List Char
  | some value => Nat.toDigits 10 value.toNat
  | none => ['-', '1']

def listText : List (Option UInt8) → List Char
  | [] => []
  | [entry] => entryText entry
  | entry :: rest => entryText entry ++ ',' :: listText rest

def fieldText (key : String) (value : List Char) : List Char :=
  key.toList ++ '=' :: value ++ [';']

def savedEntries (entryAt : Nat → Option UInt8) : List (Option UInt8) :=
  (List.range Pattern.barSteps).map entryAt

def toChars (song : Song) : List Char :=
  fieldText "tempo" (Nat.toDigits 10 song.tempo.toNat) ++
  fieldText "d2" (Nat.toDigits 10 song.dutyIndex.toNat) ++
  fieldText "ns" (if song.shortNoise then ['1'] else ['0']) ++
  fieldText "p1" (listText (savedEntries song.pattern.leadAt)) ++
  fieldText "p2" (listText (savedEntries song.pattern.harmonyAt)) ++
  fieldText "nz" (listText (savedEntries song.pattern.noiseAt))

def toText (song : Song) : String := String.ofList song.toChars

/-! ## Reading -/

def magnitudeMax : Nat := 0x7FFFFFFFFFFFFFFF

/-- The value of a digit run, cut at `magnitudeMax`. -/
def magnitude (digits : List Char) : Nat :=
  digits.foldl (fun value digit => min magnitudeMax (value * 10 + (digit.toNat - 48))) 0

def takeSign : List Char → Bool × List Char
  | '-' :: rest => (true, rest)
  | '+' :: rest => (false, rest)
  | text => (false, text)

/-- The number a text begins with: blanks, at most one sign, then digits.  Anything may follow. -/
def readInt (text : List Char) : Option Int :=
  let (negative, rest) := takeSign (trimStart text)
  let digits := rest.takeWhile Char.isDigit
  if digits.isEmpty then none
  else if negative then some (-(magnitude digits : Int))
  else some (magnitude digits)

/-- The trimmed value of the first segment that carries a key; an empty one counts as absent. -/
def field? (text : List Char) (key : String) : Option (List Char) :=
  let segments := (pieces ';' text).filterMap (cutAt '=')
  match segments.find? fun segment => trim segment.1 = key.toList with
  | some segment =>
      let value := trim segment.2
      if value.isEmpty then none else some value
  | none => none

def intField? (text : List Char) (key : String) : Option Int :=
  (field? text key).bind readInt

def noteMax : Nat := 127

def pitchMax : Nat := 2

/-- A list entry: negative numbers rest, high ones are cut at `top`. -/
def entryOfInt (top : Nat) (value : Int) : Option UInt8 :=
  if value < 0 then none else some (min top value.toNat).toUInt8

/-- Exactly `Pattern.barSteps` entries: further items are ignored, missing ones rest, and an
item without a number counts as zero. -/
def entriesOfText (top : Nat) (text : List Char) : List (Option UInt8) :=
  let entries := ((pieces ',' text).take Pattern.barSteps).map fun item =>
    entryOfInt top ((readInt item).getD 0)
  entries ++ List.replicate (Pattern.barSteps - entries.length) none

def tempoOfInt (value : Int) : UInt32 :=
  if value > 0 then (min (UInt32.size - 1) value.toNat).toUInt32 else (default : Song).tempo

/-- Indices 0, 1 and 2 name their duty; every other number means the widest one. -/
def dutyIndexOfInt (value : Int) : UInt8 :=
  if 0 ≤ value ∧ value ≤ 2 then value.toNat.toUInt8 else 3

def entriesField (top : Nat) (text : List Char) (key : String) : List (Option UInt8) :=
  match field? text key with
  | some list => entriesOfText top list
  | none => List.replicate Pattern.barSteps none

def ofChars (text : List Char) : Song :=
  { tempo := ((intField? text "tempo").map tempoOfInt).getD (default : Song).tempo
    dutyIndex := ((intField? text "d2").map dutyIndexOfInt).getD (default : Song).dutyIndex
    shortNoise := ((intField? text "ns").map (· != 0)).getD (default : Song).shortNoise
    pattern :=
      { lead := entriesField noteMax text "p1"
        harmony := entriesField noteMax text "p2"
        noise := entriesField pitchMax text "nz"
        steps := Pattern.barSteps } }

def ofText (text : String) : Song := ofChars text.toList

end PulseTracker.Song
