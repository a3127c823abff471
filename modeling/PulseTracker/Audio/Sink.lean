import PulseTracker.Audio.Error
import PulseTracker.Sample

/-!
# Sinks

A sink plays interleaved sixteen-bit samples at a rate and a number of channels
of its own.  It is a record of operations on a state `ω`; an operation that
fails still gives the state it left behind.
-/

namespace PulseTracker

structure Sink (ω : Type) where
  rate : UInt32
  channels : UInt16
  write : Array Int16 → ω → Except SoundError Unit × ω
  flush : ω → Except SoundError Unit × ω := fun out => (.ok (), out)

namespace Sink

/-- Copies of a mono sample in one frame; a sink without channels counts as mono. -/
def width (sink : Sink ω) : Nat := max 1 sink.channels.toNat

def writeSilence (sink : Sink ω) (frames : Nat) (out : ω) : Except SoundError Unit × ω :=
  sink.write (Array.replicate (frames * sink.width) 0) out

def writeMono (sink : Sink ω) (samples : Array Int16) (out : ω) : Except SoundError Unit × ω :=
  sink.write (interleave sink.width samples) out

end Sink

structure Recording where
  samples : Array Int16
  writes : Nat
  deriving DecidableEq, Repr

namespace Recording

def empty : Recording := { samples := #[], writes := 0 }

/-- A sink that keeps what it is given and never fails; it has at least one channel. -/
def sink (rate : UInt32) (channels : UInt16) : Sink Recording where
  rate
  channels := max 1 channels
  write samples out :=
    (.ok (), { samples := out.samples ++ samples, writes := out.writes + 1 })

def firstChannel (channels : Nat) (recording : Recording) : Array Int16 :=
  (Array.range (recording.samples.size / channels)).map fun frame =>
    recording.samples.getD (frame * channels) 0

end Recording

end PulseTracker
