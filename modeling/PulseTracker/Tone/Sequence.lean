import PulseTracker.Tone.Burst

/-!
# Tone sequences

Tones one after the other, with a short gap after each.
-/

namespace PulseTracker

def gapMilliseconds : Nat := 10

def gapLength (rate : UInt32) : Nat := rate.toNat * gapMilliseconds / 1000

namespace Tone

def playFrom (sink : Sink ω) (volume : Float32) :
    List Tone → Nat → ω → Except SoundError Report × ω
  | [], frames, out => (.ok ⟨frames, false⟩, out)
  | tone :: rest, frames, out =>
      match tone.play sink volume out with
      | (.error error, out) => (.error error, out)
      | (.ok report, out) =>
          let frames := frames + report.frames
          if gapLength sink.rate = 0 then playFrom sink volume rest frames out
          else
            match sink.writeSilence (gapLength sink.rate) out with
            | (.error error, out) => (.error error, out)
            | (.ok _, out) => playFrom sink volume rest frames out

/-- Play tones back to back.  The report counts the tones and not the gaps. -/
def playAll (tones : List Tone) (sink : Sink ω) (volume : Float32) (out : ω) :
    Except SoundError Report × ω :=
  playFrom sink volume tones 0 out

def records (tones : List Tone) (result : Except SoundError Report) : List LogRecord :=
  match result with
  | .ok report =>
      [{ level := .debug
         target := playbackTarget
         message := s!"sequence done: {tones.length} tones, {report.frames} frames" }]
  | .error _ => []

end Tone

end PulseTracker
