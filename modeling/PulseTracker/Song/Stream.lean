import PulseTracker.Audio.Playback
import PulseTracker.Song.Basic
import PulseTracker.Synth.Block

/-!
# Playing a song as a stream

A stream is one session with a song: a synthesizer, the voicing and the cursor.
The song can be exchanged while it plays; the listener's choice of a sine stays
what it was at the start.
-/

namespace PulseTracker

structure SongStream where
  synth : Synth
  song : Song
  voicing : Voicing
  cursor : Cursor
  /-- Whether any sample was produced since the start. -/
  started : Bool

namespace SongStream

def start (rate : UInt32) (song : Song) (sine : Bool) : SongStream :=
  { synth := .ofRate rate
    song
    voicing := song.voicing sine
    cursor := .start
    started := false }

def total (stream : SongStream) : Nat :=
  stream.synth.patternLength stream.song.pattern stream.song.tempo

/-- The step being played, at most the last one; `none` before the first sample. -/
def playhead (stream : SongStream) : Option Nat :=
  if stream.started ∧ stream.song.pattern.steps ≠ 0 then
    some (min stream.cursor.step (stream.song.pattern.steps - 1))
  else none

def finished (stream : SongStream) : Bool :=
  stream.cursor.finished stream.song.pattern

def reset (stream : SongStream) : SongStream :=
  { stream with cursor := .start, started := false }

def setSong (stream : SongStream) (song : Song) : SongStream :=
  { stream with
    song
    voicing := { stream.voicing with harmonyDuty := song.duty, shortNoise := song.shortNoise } }

def next (stream : SongStream) (room : Nat) : SongStream × Array Int16 :=
  let (cursor, samples) :=
    stream.synth.next stream.song.pattern stream.song.tempo stream.voicing
      stream.cursor room
  ({ stream with cursor, started := stream.started || !samples.isEmpty }, samples)

def source : Source SongStream where
  fill {room} buffer stream :=
    let (stream, samples) := stream.next room
    { claimed := samples.size
      buffer := overwrite samples buffer
      source := stream }

def play (stream : SongStream) (sink : Sink ω) (volume : Float32)
    (cancel : SongStream → Bool) (out : ω) : Outcome Report SongStream ω :=
  playPadded sink source stream.total volume cancel stream out

end SongStream

end PulseTracker
