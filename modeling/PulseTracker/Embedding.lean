import PulseTracker.Song.Stream
import PulseTracker.Song.Text

/-!
# Streams for a host program

The operations that a host program calls on a song stream.  A host passes what
it has: a handle that may be null, a buffer that may be null, and songs as bytes
that end at the first zero and need not be text.  Whatever is refused changes
nothing and is answered by null, zero or `false`.
-/

namespace PulseTracker.Embedding

/-- A handle of the host; `none` is null. -/
abbrev Handle := Option SongStream

def beforeZero (bytes : List UInt8) : List UInt8 := bytes.takeWhile (· ≠ 0)

def songOfBytes? (bytes : Option (List UInt8)) : Option Song :=
  match bytes with
  | none => none
  | some bytes => (String.fromUTF8? ⟨(beforeZero bytes).toArray⟩).map Song.ofText

/-- A new stream, or null for a string that is null or no text. -/
def create (rate : UInt32) (bytes : Option (List UInt8)) (sine : Bool) : Handle :=
  (songOfBytes? bytes).map fun song => SongStream.start rate song sine

def destroy (_ : Handle) : Handle := none

/-- The next samples for a buffer; `none` is a null buffer. -/
def render (handle : Handle) (room : Option Nat) : Handle × Array Int16 :=
  match handle, room with
  | some stream, some (room + 1) =>
      let (stream, samples) := stream.next (room + 1)
      (some stream, samples)
  | handle, _ => (handle, #[])

def total (handle : Handle) : Nat :=
  match handle with
  | some stream => stream.total
  | none => 0

def stepMax : Nat := 0x7FFFFFFF

def playhead (handle : Handle) : Int :=
  match handle.bind SongStream.playhead with
  | some step => if step ≤ stepMax then step else -1
  | none => -1

def reset (handle : Handle) : Handle := handle.map SongStream.reset

def setSong (handle : Handle) (bytes : Option (List UInt8)) : Bool × Handle :=
  match handle, songOfBytes? bytes with
  | some stream, some song => (true, some (stream.setSong song))
  | handle, _ => (false, handle)

end PulseTracker.Embedding
