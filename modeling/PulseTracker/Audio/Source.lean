import PulseTracker.Sample

/-!
# Sources

A source fills buffers with mono samples.  It says how many it wrote, and a
source that is trusted in nothing may say anything: the one thing its type
guarantees is that the buffer keeps its size.
-/

namespace PulseTracker

/-- Put samples at the front of a buffer; those that do not fit are dropped. -/
def overwrite (samples : Array Int16) (buffer : Vector Int16 n) : Vector Int16 n :=
  ⟨samples.extract 0 n ++ buffer.toArray.extract (min samples.size n) n, by
    simp only [Array.size_append, Array.size_extract, Vector.size_toArray]
    omega⟩

structure Filled (room : Nat) (σ : Type) where
  /-- Number of samples the source says it wrote; zero ends playback. -/
  claimed : Nat
  buffer : Vector Int16 room
  source : σ

structure Source (σ : Type) where
  fill : {room : Nat} → Vector Int16 room → σ → Filled room σ

namespace Source

/-- The samples of an array in order; the state is the position of the next one. -/
def ofArray (samples : Array Int16) : Source Nat where
  fill {room} buffer position :=
    let next := samples.extract position (position + room)
    { claimed := next.size
      buffer := overwrite next buffer
      source := position + next.size }

end Source

end PulseTracker
