import PulseTracker.BootSound
import PulseTracker.Proofs.Audio.Script

/-!
# What playback asks of a sink

Every way of playing something has a script, made of the scripts of its parts.  The rate and the
number of channels of the sink count for it; what the sink does with its calls does not.
-/

namespace PulseTracker

def widthOf (channels : UInt16) : Nat := max 1 channels.toNat

def silentCall (width frames : Nat) : SinkCall :=
  .write (Array.replicate (frames * width) 0)

def monoCall (width : Nat) (samples : Array Int16) : SinkCall :=
  .write (interleave width samples)

theorem Sink.writeSilence_eq (sink : Sink ω) (frames : Nat) (out : ω) :
    sink.writeSilence frames out =
      (sink.answer out (silentCall (widthOf sink.channels) frames),
        sink.call out (silentCall (widthOf sink.channels) frames)) := rfl

theorem Sink.writeMono_eq (sink : Sink ω) (samples : Array Int16) (out : ω) :
    sink.writeMono samples out =
      (sink.answer out (monoCall (widthOf sink.channels) samples),
        sink.call out (monoCall (widthOf sink.channels) samples)) := rfl

theorem Sink.recorder_writeSilence (rate : UInt32) (channels : UInt16) (frames : Nat)
    (calls : List SinkCall) :
    (recorder rate channels).writeSilence frames calls =
      (.ok (), calls ++ [silentCall (widthOf channels) frames]) := rfl

theorem Sink.recorder_writeMono (rate : UInt32) (channels : UInt16) (samples : Array Int16)
    (calls : List SinkCall) :
    (recorder rate channels).writeMono samples calls =
      (.ok (), calls ++ [monoCall (widthOf channels) samples]) := rfl

theorem Sink.recorder_flush (rate : UInt32) (channels : UInt16) (calls : List SinkCall) :
    (recorder rate channels).flush calls = (.ok (), calls ++ [.flush]) := rfl

/-! ## Sources -/

namespace Source

variable (source : Source σ) (volume : Float32) (cancel : σ → Bool)

def transferScript (width remaining frames : Nat) (scratch : Scratch) (s : σ) :
    Script Report σ :=
  if remaining = 0 then .done ⟨frames, false⟩ s
  else if cancel s then .done ⟨frames, true⟩ s
  else
    let chunk := source.pull volume remaining scratch s
    if chunk.samples.size = 0 then .done ⟨frames, false⟩ chunk.source
    else
      (transferScript width (remaining - chunk.samples.size) (frames + chunk.samples.size)
        chunk.scratch chunk.source).cons chunk.source (monoCall width chunk.samples)
termination_by remaining
decreasing_by
  rename_i h
  have h : ¬(source.pull volume remaining scratch s).samples.size = 0 := h
  show remaining - (source.pull volume remaining scratch s).samples.size < remaining
  omega

def rawScript (width total : Nat) (s : σ) : Script Report σ :=
  source.transferScript volume cancel width total 0 .empty s

def paddedScript (rate : UInt32) (width total : Nat) (s : σ) : Script Report σ :=
  let silence := silentCall width (paddingLength rate)
  ((source.rawScript volume cancel width total s).bind fun report last =>
    (Script.done report last).cons last silence).cons s silence

theorem transfer_follows (sink : Sink ω) (remaining frames : Nat) (scratch : Scratch) (s : σ)
    (out : ω) :
    transfer sink source volume cancel remaining frames scratch s out =
      (source.transferScript volume cancel (widthOf sink.channels) remaining frames scratch
        s).perform sink out := by
  induction remaining using Nat.strongRecOn generalizing frames scratch s out with
  | ind remaining ih =>
      rw [transfer, transferScript]
      by_cases hremaining : remaining = 0
      · rw [if_pos hremaining, if_pos hremaining, Script.perform_done]
      · rw [if_neg hremaining, if_neg hremaining]
        by_cases hflag : cancel s = true
        · rw [if_pos hflag, if_pos hflag, Script.perform_done]
        · rw [if_neg hflag, if_neg hflag]
          dsimp only
          by_cases hdry : (source.pull volume remaining scratch s).samples.size = 0
          · rw [if_pos hdry, if_pos hdry, Script.perform_done]
          · rw [if_neg hdry, if_neg hdry, Script.perform_cons, Sink.writeMono_eq]
            cases sink.answer out (monoCall (widthOf sink.channels)
                (source.pull volume remaining scratch s).samples) with
            | error error => rfl
            | ok _ => exact ih _ (by omega) _ _ _ _

theorem playRaw_follows (sink : Sink ω) (total : Nat) (s : σ) (out : ω) :
    playRaw sink source total volume cancel s out =
      (source.rawScript volume cancel (widthOf sink.channels) total s).perform sink out :=
  source.transfer_follows volume cancel sink total 0 .empty s out

theorem playPadded_follows (sink : Sink ω) (total : Nat) (s : σ) (out : ω) :
    playPadded sink source total volume cancel s out =
      (source.paddedScript volume cancel sink.rate (widthOf sink.channels) total s).perform
        sink out := by
  simp only [playPadded, paddedScript, Script.perform_cons, Sink.writeSilence_eq,
    source.playRaw_follows]
  cases sink.answer out (silentCall (widthOf sink.channels) (paddingLength sink.rate)) with
  | error error => rfl
  | ok _ =>
      simp only [Script.perform_bind]
      generalize (source.rawScript volume cancel (widthOf sink.channels) total s).perform sink
        (sink.call out (silentCall (widthOf sink.channels) (paddingLength sink.rate))) = played
      obtain ⟨result, last, out'⟩ := played
      cases result with
      | error error => rfl
      | ok report =>
          simp only [Script.perform_cons]
          cases sink.answer out' (silentCall (widthOf sink.channels) (paddingLength sink.rate)) with
          | error error => rfl
          | ok _ => rfl

end Source

/-! ## Samples, tones and boot sounds -/

def Outcome.ofPair (outcome : Except SoundError α × ω) : Outcome α Unit ω :=
  ⟨outcome.1, (), outcome.2⟩

/-- On a sink that takes every call of the script, a run reports what the script says, and all of
the calls are made. -/
theorem Outcome.eq_of_grants {played : Except SoundError α × ω} {script : Script α Unit}
    {sink : Sink ω} {out : ω} (hplayed : ofPair played = script.perform sink out)
    (h : sink.Grants script.requests out) :
    played = (.ok script.result, sink.after script.requests out) := by
  rw [Script.perform_of_grants _ h] at hplayed
  exact Prod.ext (congrArg Outcome.result hplayed) (congrArg Outcome.out hplayed)

def samplesScript (samples : Array Int16) (volume : Float32) (width : Nat) :
    Script Report Unit :=
  ((Source.ofArray samples).rawScript volume neverCancelled width samples.size 0).mapSource
    fun _ => ()

theorem playSamples_follows (samples : Array Int16) (volume : Float32) (sink : Sink ω)
    (out : ω) :
    Outcome.ofPair (playSamples sink samples volume out) =
      (samplesScript samples volume (widthOf sink.channels)).perform sink out := by
  simp only [playSamples, samplesScript, Script.perform_mapSource, Source.playRaw_follows,
    Outcome.ofPair]

namespace Tone

def script (tone : Tone) (volume : Float32) (rate : UInt32) (width : Nat) :
    Script Report Unit :=
  let burst := Burst.start tone volume rate
  (Burst.source.rawScript 1 neverCancelled width burst.total burst).mapSource fun _ => ()

theorem play_follows (tone : Tone) (volume : Float32) (sink : Sink ω) (out : ω) :
    Outcome.ofPair (tone.play sink volume out) =
      (tone.script volume sink.rate (widthOf sink.channels)).perform sink out := by
  simp only [play, script, Script.perform_mapSource, Source.playRaw_follows, Outcome.ofPair]

def scriptFrom (volume : Float32) (rate : UInt32) (width : Nat) :
    List Tone → Nat → Script Report Unit
  | [], frames => .done ⟨frames, false⟩ ()
  | tone :: rest, frames =>
      (tone.script volume rate width).bind fun report _ =>
        let remaining := scriptFrom volume rate width rest (frames + report.frames)
        if gapLength rate = 0 then remaining
        else remaining.cons () (silentCall width (gapLength rate))

theorem playFrom_follows (volume : Float32) (sink : Sink ω) (tones : List Tone) (frames : Nat)
    (out : ω) :
    Outcome.ofPair (playFrom sink volume tones frames out) =
      (scriptFrom volume sink.rate (widthOf sink.channels) tones frames).perform sink out := by
  induction tones generalizing frames out with
  | nil => rfl
  | cons tone rest ih =>
      simp only [playFrom, scriptFrom, Script.perform_bind, ← tone.play_follows]
      generalize tone.play sink volume out = played
      obtain ⟨result, out'⟩ := played
      cases result with
      | error error => rfl
      | ok report =>
          simp only [Outcome.ofPair] at ih ⊢
          by_cases hgap : gapLength sink.rate = 0
          · simp only [if_pos hgap]
            exact ih (frames + report.frames) out'
          · simp only [if_neg hgap, Script.perform_cons, Sink.writeSilence_eq]
            cases sink.answer out' (silentCall (widthOf sink.channels) (gapLength sink.rate)) with
            | error error => rfl
            | ok _ => exact ih (frames + report.frames) _

end Tone

namespace BootSound

def script (sound : BootSound) (store : Store κ) (kept : κ) (volume : Float32) (rate : UInt32)
    (width : Nat) : Script Report Unit :=
  match sound with
  | .cute => Tone.scriptFrom volume rate width cuteTones 0
  | .majestic => Tone.scriptFrom volume rate width majesticTones 0
  | .jingle =>
      samplesScript ((Synth.ofRate rate).render jinglePattern jingleTempo jingleVoicing) volume
        width
  | .song slot =>
      match slot.load store kept with
      | none => .done default ()
      | some tune =>
          let stream := SongStream.start rate tune true
          (SongStream.source.paddedScript volume neverCancelled rate width stream.total
            stream).mapSource fun _ => ()

theorem play_song_follows (slot : Slot) (store : Store κ) (kept : κ) (volume : Float32)
    (sink : Sink ω) (out : ω) :
    Outcome.ofPair ((BootSound.song slot).play sink store kept volume out) =
      ((BootSound.song slot).script store kept volume sink.rate
        (widthOf sink.channels)).perform sink out := by
  simp only [play, script, Slot.play]
  cases slot.load store kept with
  | none => rfl
  | some tune =>
      simp only [SongStream.play, Source.playPadded_follows, Script.perform_mapSource,
        Outcome.ofPair]
      generalize ((SongStream.source.paddedScript volume neverCancelled sink.rate
        (widthOf sink.channels) _ _).perform sink out) = played
      cases played.result with
      | error error => rfl
      | ok report => rfl

theorem play_follows (sound : BootSound) (store : Store κ) (kept : κ) (volume : Float32)
    (sink : Sink ω) (out : ω) :
    Outcome.ofPair (sound.play sink store kept volume out) =
      (sound.script store kept volume sink.rate (widthOf sink.channels)).perform sink out := by
  cases sound with
  | cute => exact Tone.playFrom_follows volume sink cuteTones 0 out
  | majestic => exact Tone.playFrom_follows volume sink majesticTones 0 out
  | jingle => exact playSamples_follows _ volume sink out
  | song slot => exact play_song_follows slot store kept volume sink out

end BootSound

end PulseTracker
