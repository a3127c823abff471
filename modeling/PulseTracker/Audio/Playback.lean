import PulseTracker.Audio.Sink
import PulseTracker.Audio.Source
import PulseTracker.Decimal.Fixed
import PulseTracker.Log

/-!
# Playback

Samples move from a source to a sink in chunks of at most `chunkMax`.  Each
chunk is scaled by the volume and repeated for every channel.  A stream begins
with a few milliseconds of silence and ends with as many, cancelled or not, so
that an amplifier settles without a pop.

The first failure of the sink ends everything: it is the result, and neither the
sink nor the source is used after it.
-/

namespace PulseTracker

def chunkMax : Nat := 512

/-- Frames of silence around a stream, about five milliseconds. -/
def paddingLength (rate : UInt32) : Nat :=
  max 1 (min chunkMax (rate.toNat / 200))

structure Report where
  /-- Frames of the source that reached the sink; silence does not count. -/
  frames : Nat
  cancelled : Bool
  deriving DecidableEq, Repr

instance : Inhabited Report := ⟨⟨0, false⟩⟩

/-- The buffer that is lent to a source again and again. -/
abbrev Scratch := Vector Int16 chunkMax

def Scratch.empty : Scratch := Vector.replicate chunkMax 0

structure Chunk (σ : Type) where
  samples : Array Int16
  scratch : Scratch
  source : σ

/-- Ask for the next chunk of a stream with `remaining` samples to go.  More samples than fit
are not believed. -/
def Source.pull (source : Source σ) (volume : Float32) (remaining : Nat) (scratch : Scratch)
    (s : σ) : Chunk σ :=
  let filled := source.fill (scratch.take remaining) s
  let count := min filled.claimed (min remaining chunkMax)
  let samples := scaleSamples volume (filled.buffer.toArray.extract 0 count)
  { samples
    scratch := overwrite samples (overwrite filled.buffer.toArray scratch)
    source := filled.source }

structure Outcome (α σ ω : Type) where
  result : Except SoundError α
  source : σ
  out : ω

/-- Move chunks until nothing remains, the flag is seen, or the source is dry.  The flag is
read before every chunk and may depend on what the source did so far. -/
def transfer (sink : Sink ω) (source : Source σ) (volume : Float32) (cancel : σ → Bool)
    (remaining frames : Nat) (scratch : Scratch) (s : σ) (out : ω) : Outcome Report σ ω :=
  if remaining = 0 then ⟨.ok ⟨frames, false⟩, s, out⟩
  else if cancel s then ⟨.ok ⟨frames, true⟩, s, out⟩
  else
    let chunk := source.pull volume remaining scratch s
    if chunk.samples.size = 0 then ⟨.ok ⟨frames, false⟩, chunk.source, out⟩
    else
      match sink.writeMono chunk.samples out with
      | (.error error, out) => ⟨.error error, chunk.source, out⟩
      | (.ok _, out) =>
          transfer sink source volume cancel (remaining - chunk.samples.size)
            (frames + chunk.samples.size) chunk.scratch chunk.source out
termination_by remaining
decreasing_by
  rename_i h
  have h : ¬(source.pull volume remaining scratch s).samples.size = 0 := h
  show remaining - (source.pull volume remaining scratch s).samples.size < remaining
  omega

/-- Play at most `total` samples of a source without silence around them. -/
def playRaw (sink : Sink ω) (source : Source σ) (total : Nat) (volume : Float32)
    (cancel : σ → Bool) (s : σ) (out : ω) : Outcome Report σ ω :=
  transfer sink source volume cancel total 0 .empty s out

/-- Play at most `total` samples of a source with silence before and after. -/
def playPadded (sink : Sink ω) (source : Source σ) (total : Nat) (volume : Float32)
    (cancel : σ → Bool) (s : σ) (out : ω) : Outcome Report σ ω :=
  let silence := paddingLength sink.rate
  match sink.writeSilence silence out with
  | (.error error, out) => ⟨.error error, s, out⟩
  | (.ok _, out) =>
      match playRaw sink source total volume cancel s out with
      | ⟨.error error, s, out⟩ => ⟨.error error, s, out⟩
      | ⟨.ok report, s, out⟩ =>
          match sink.writeSilence silence out with
          | (.error error, out) => ⟨.error error, s, out⟩
          | (.ok _, out) => ⟨.ok report, s, out⟩

def neverCancelled (_ : σ) : Bool := false

/-- Play samples that are already rendered, without silence around them. -/
def playSamples (sink : Sink ω) (samples : Array Int16) (volume : Float32) (out : ω) :
    Except SoundError Report × ω :=
  let outcome := playRaw sink (.ofArray samples) samples.size volume neverCancelled 0 out
  (outcome.result, outcome.out)

/-! ## Records -/

def playbackTarget : String := "audio::playback"

def streamStartRecord (sink : Sink ω) (total : Nat) (volume : Float32) : LogRecord :=
  { level := .debug
    target := playbackTarget
    message := s!"stream start: {total} samples @ {sink.rate} Hz x{sink.width}, " ++
      s!"volume {Decimal.fixed 2 volume}" }

def streamEndRecord (report : Report) : LogRecord :=
  if report.cancelled then
    { level := .info
      target := playbackTarget
      message := s!"stream cancelled after {report.frames} frames" }
  else
    { level := .debug
      target := playbackTarget
      message := s!"stream done: {report.frames} frames" }

def streamRecords (sink : Sink ω) (total : Nat) (volume : Float32)
    (result : Except SoundError Report) : List LogRecord :=
  streamStartRecord sink total volume ::
    match result with
    | .ok report => [streamEndRecord report]
    | .error _ => []

end PulseTracker
