import PulseTracker.Proofs.Wave.Take

/-!
# A wave file and a recording

What is asked of a sink is settled by its rate and its channels, so a wave file and a recording in
memory that have the same ones are asked the same.  Both take everything: the same samples come to
both, whatever is played.  The file counts its frames write by write, by a division that loses
what is left over; nothing is, as every way to play writes whole frames.
-/

namespace PulseTracker

/-! ## Whole frames -/

theorem Script.Whole.mapSource {width : Nat} {script : Script α σ} (h : script.Whole width)
    (f : σ → τ) : (script.mapSource f).Whole width := by
  intro call hmem
  rw [requests_mapSource] at hmem
  exact h call hmem

theorem samplesScript_whole (samples : Array Int16) (volume : Float32) (width : Nat) :
    (samplesScript samples volume width).Whole width :=
  .mapSource (Source.transferScript_whole _ _ _ _ _ _ _ _) _

namespace Tone

theorem script_whole (tone : Tone) (volume : Float32) (rate : UInt32) (width : Nat) :
    (tone.script volume rate width).Whole width :=
  .mapSource (Source.transferScript_whole _ _ _ _ _ _ _ _) _

theorem scriptFrom_whole (volume : Float32) (rate : UInt32) (width : Nat) (tones : List Tone)
    (frames : Nat) : (scriptFrom volume rate width tones frames).Whole width := by
  induction tones generalizing frames with
  | nil => exact .done _ _
  | cons tone rest ih =>
      apply Script.Whole.bind (tone.script_whole volume rate width)
      dsimp only
      split
      · exact ih _
      · exact .cons (silentCall_whole width (gapLength rate)) (ih _) _

end Tone

theorem BootSound.script_whole (sound : BootSound) (store : Store κ) (kept : κ)
    (volume : Float32) (rate : UInt32) (width : Nat) :
    (sound.script store kept volume rate width).Whole width := by
  cases sound with
  | cute => exact Tone.scriptFrom_whole volume rate width cuteTones 0
  | majestic => exact Tone.scriptFrom_whole volume rate width majesticTones 0
  | jingle => exact samplesScript_whole _ volume width
  | song slot =>
      simp only [script]
      cases slot.load store kept with
      | none => exact .done _ _
      | some tune => exact .mapSource (Source.paddedScript_whole _ _ _ _ _ _ _) _

/-! ## Pieces -/

inductive Recital (κ : Type) where
  | ofStream (stream : SongStream) (total : Nat) (volume : Float32) (cancel : SongStream → Bool)
  | ofTone (tone : Tone) (volume : Float32)
  | ofTones (tones : List Tone) (volume : Float32)
  | ofSound (sound : BootSound) (store : Store κ) (kept : κ) (volume : Float32)

namespace Recital

def play (recital : Recital κ) (sink : Sink ω) (out : ω) : Except SoundError Report × ω :=
  match recital with
  | .ofStream stream total volume cancel =>
      let outcome := playPadded sink SongStream.source total volume cancel stream out
      (outcome.result, outcome.out)
  | .ofTone tone volume => tone.play sink volume out
  | .ofTones tones volume => Tone.playAll tones sink volume out
  | .ofSound sound store kept volume => sound.play sink store kept volume out

def playAll (sink : Sink ω) : List (Recital κ) → ω → List (Except SoundError Report) × ω
  | [], out => ([], out)
  | recital :: rest, out =>
      let (result, out) := recital.play sink out
      let (results, out) := playAll sink rest out
      (result :: results, out)

def script (recital : Recital κ) (rate : UInt32) (width : Nat) : Script Report Unit :=
  match recital with
  | .ofStream stream total volume cancel =>
      (SongStream.source.paddedScript volume cancel rate width total stream).mapSource fun _ => ()
  | .ofTone tone volume => tone.script volume rate width
  | .ofTones tones volume => Tone.scriptFrom volume rate width tones 0
  | .ofSound sound store kept volume => sound.script store kept volume rate width

theorem play_eq_script (recital : Recital κ) (sink : Sink ω) (out : ω) :
    Outcome.ofPair (recital.play sink out) =
      (recital.script sink.rate (widthOf sink.channels)).perform sink out := by
  cases recital with
  | ofStream stream total volume cancel =>
      simp only [play, script, Script.perform_mapSource, Source.playPadded_follows, Outcome.ofPair]
  | ofTone tone volume => exact tone.play_follows volume sink out
  | ofTones tones volume => exact Tone.playFrom_follows volume sink tones 0 out
  | ofSound sound store kept volume => exact sound.play_follows store kept volume sink out

theorem script_whole (recital : Recital κ) (rate : UInt32) (width : Nat) :
    (recital.script rate width).Whole width := by
  cases recital with
  | ofStream stream total volume cancel =>
      exact .mapSource (Source.paddedScript_whole _ _ _ _ _ _ _) _
  | ofTone tone volume => exact tone.script_whole volume rate width
  | ofTones tones volume => exact Tone.scriptFrom_whole volume rate width tones 0
  | ofSound sound store kept volume => exact sound.script_whole store kept volume rate width

theorem play_of_grants (recital : Recital κ) {sink : Sink ω} {out : ω}
    (h : sink.Grants (recital.script sink.rate (widthOf sink.channels)).requests out) :
    recital.play sink out =
      (.ok (recital.script sink.rate (widthOf sink.channels)).result,
        sink.after (recital.script sink.rate (widthOf sink.channels)).requests out) :=
  Outcome.eq_of_grants (recital.play_eq_script sink out) h

end Recital

/-! ## Both sinks -/

namespace WaveFile

structure Matches (file : WaveFile) (take : WaveTake) (recording : Recording) : Prop where
  samples : take.samples = recording.samples
  framed : take.Framed file.channels.toNat

variable {path : String} {rate : UInt32} {channels : UInt16} {take : WaveTake}
  {recording : Recording}

theorem Matches.after_samples {file : WaveFile} (h : take.samples = recording.samples)
    (calls : List SinkCall) :
    (file.sink.after calls take).samples =
      ((Recording.sink rate channels).after calls recording).samples := by
  induction calls generalizing take recording with
  | nil => exact h
  | cons call rest ih =>
      apply ih
      cases call with
      | write samples => exact congrArg (· ++ samples) h
      | flush => exact h

theorem Matches.play (h : Matches ⟨path, rate, max 1 channels⟩ take recording)
    (recital : Recital κ) :
    ∃ report take' recording',
      recital.play (sink ⟨path, rate, max 1 channels⟩) take = (.ok report, take') ∧
      recital.play (Recording.sink rate channels) recording = (.ok report, recording') ∧
      Matches ⟨path, rate, max 1 channels⟩ take' recording' := by
  have hwidth : widthOf (max 1 channels) = (max 1 channels).toNat :=
    create_width path rate channels
  have hwhole := recital.script_whole rate (widthOf (max 1 channels))
  have hpos : 0 < (max 1 channels).toNat := hwidth ▸ Nat.le_max_left 1 _
  refine ⟨_, _, _, recital.play_of_grants ((sink_neverFails _).grants ..),
    recital.play_of_grants ((Recording.sink_neverFails ..).grants ..),
    Matches.after_samples h.samples _, ?_⟩
  rw [hwidth] at hwhole
  exact after_framed hpos (hwidth ▸ hwhole) h.framed

theorem Matches.playAll (h : Matches ⟨path, rate, max 1 channels⟩ take recording)
    (recitals : List (Recital κ)) :
    ∃ (reports : List Report) (take' : WaveTake) (recording' : Recording),
      Recital.playAll (sink ⟨path, rate, max 1 channels⟩) recitals take =
        (reports.map .ok, take') ∧
      Recital.playAll (Recording.sink rate channels) recitals recording =
        (reports.map .ok, recording') ∧
      Matches ⟨path, rate, max 1 channels⟩ take' recording' := by
  induction recitals generalizing take recording with
  | nil => exact ⟨[], take, recording, rfl, rfl, h⟩
  | cons recital rest ih =>
      obtain ⟨report, take', recording', htake, hrecording, hfirst⟩ := h.play recital
      obtain ⟨reports, take'', recording'', htakes, hrecordings, hrest⟩ := ih hfirst
      refine ⟨report :: reports, take'', recording'', ?_, ?_, hrest⟩
      · simp only [Recital.playAll, htake, htakes, List.map_cons]
      · simp only [Recital.playAll, hrecording, hrecordings, List.map_cons]

/--
Pieces of any kind are played on a wave file and on a recording, of the same rate and the same
number of channels, where none counts as one.  Every piece reports the same to both, the samples
that come to the file are those of the recording, and they are as many as the frames that the file
has counted say.
-/
theorem take_eq_recording (path : String) (rate : UInt32) (channels : UInt16)
    (recitals : List (Recital κ)) :
    let file : WaveFile := ⟨path, rate, max 1 channels⟩
    let written := Recital.playAll file.sink recitals emptyTake
    let recorded := Recital.playAll (Recording.sink rate channels) recitals .empty
    (∃ reports : List Report, written.1 = reports.map .ok ∧ recorded.1 = reports.map .ok) ∧
      written.2.samples = recorded.2.samples ∧
      written.2.frames * file.channels.toNat = written.2.samples.size := by
  intro file written recorded
  have hempty : Matches file emptyTake .empty := ⟨rfl, (Nat.zero_mul _).symm⟩
  obtain ⟨reports, take, recording, hwritten, hrecorded, h⟩ := hempty.playAll recitals
  have htake : written = (reports.map .ok, take) := hwritten
  have hrecording : recorded = (reports.map .ok, recording) := hrecorded
  rw [htake, hrecording]
  exact ⟨⟨reports, rfl, rfl⟩, h.samples, h.framed.symm⟩

end WaveFile

end PulseTracker
