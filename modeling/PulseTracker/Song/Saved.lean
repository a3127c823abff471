import PulseTracker.Song.Stream
import PulseTracker.Store.Slot

/-!
# Playing saved songs

The song of a slot is played as a stream with a sine for its lead.  A slot that
holds no song plays nothing, which is no failure.
-/

namespace PulseTracker.Slot

def play (slot : Slot) (sink : Sink ω) (store : Store κ) (kept : κ) (volume : Float32)
    (cancel : SongStream → Bool) (out : ω) : Except SoundError (Option Report) × ω :=
  match slot.load store kept with
  | none => (.ok none, out)
  | some song =>
      let outcome := (SongStream.start sink.rate song true).play sink volume cancel out
      (outcome.result.map some, outcome.out)

def records (slot : Slot) (sink : Sink ω) (store : Store κ) (kept : κ) (volume : Float32)
    (result : Except SoundError (Option Report)) : List LogRecord :=
  match slot.load store kept with
  | none =>
      [{ level := .debug
         target := playbackTarget
         message := s!"slot {slot.number} is empty" }]
  | some song =>
      streamRecords sink (SongStream.start sink.rate song true).total volume
        (result.map fun report => report.getD default)

end PulseTracker.Slot
