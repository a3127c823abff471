import PulseTracker.Log
import PulseTracker.Song.Text
import PulseTracker.Store.File

/-!
# Song slots

Three songs can be saved, each under a key of its own.
-/

namespace PulseTracker

inductive Slot where
  | first
  | second
  | third
  deriving DecidableEq, Repr

namespace Slot

def number : Slot → Nat
  | .first => 1
  | .second => 2
  | .third => 3

def ofNumber? : Nat → Option Slot
  | 1 => some .first
  | 2 => some .second
  | 3 => some .third
  | _ => none

def all : List Slot := [.first, .second, .third]

def key : Slot → String
  | .first => "song1"
  | .second => "song2"
  | .third => "song3"

/-- The song saved in a slot; an empty text counts as no song. -/
def load (slot : Slot) (store : Store κ) (kept : κ) : Option Song :=
  match store.get? kept slot.key with
  | some text => if text.isEmpty then none else some (Song.ofText text)
  | none => none

def save (slot : Slot) (song : Song) (store : Store κ) (kept : κ) :
    Except SoundError Unit × κ :=
  store.set slot.key song.toText kept

def saveRecord (slot : Slot) : LogRecord :=
  { level := .debug
    target := storeTarget
    message := s!"saving slot {slot.number}" }

end Slot

end PulseTracker
