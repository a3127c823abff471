import PulseTracker.Proofs.Audio.Requests
import PulseTracker.Proofs.Disk.ReadBack
import PulseTracker.Proofs.Song.Delivery
import PulseTracker.Proofs.Synth.Magnitude
import PulseTracker.Wave.File

/-!
# What a wave file takes

A wave file counts its frames write by write, and closing it fails on a frame that is not
complete.  Playback writes whole frames only, so the count is right and closing succeeds.
-/

namespace PulseTracker

/-! ## Whole frames -/

def SinkCall.Whole (width : Nat) : SinkCall → Prop
  | .write samples => width ∣ samples.size
  | .flush => True

def Script.Whole (width : Nat) (script : Script α σ) : Prop :=
  ∀ call ∈ script.requests, call.Whole width

namespace Script

variable {width : Nat}

theorem Whole.done (result : α) (source : σ) : (done result source).Whole width := by
  rintro call ⟨⟩

theorem Whole.cons {call : SinkCall} {script : Script α σ} (hcall : call.Whole width)
    (h : script.Whole width) (source : σ) : (script.cons source call).Whole width :=
  List.forall_mem_cons.mpr ⟨hcall, h⟩

theorem Whole.bind {script : Script α σ} {next : α → σ → Script β σ} (h : script.Whole width)
    (hnext : (next script.result script.source).Whole width) :
    (script.bind next).Whole width := by
  intro call hmem
  simp only [requests, Script.bind, List.map_append, List.mem_append] at hmem
  rcases hmem with hfirst | hlater
  · exact h call hfirst
  · exact hnext call hlater

end Script

theorem silentCall_whole (width frames : Nat) : (silentCall width frames).Whole width := by
  rw [silentCall, SinkCall.Whole, Array.size_replicate]
  exact Nat.dvd_mul_left width frames

theorem monoCall_whole (width : Nat) (samples : Array Int16) :
    (monoCall width samples).Whole width := by
  rw [monoCall, SinkCall.Whole, interleave_size]
  exact Nat.dvd_mul_left width samples.size

namespace Source

variable (source : Source σ) (volume : Float32) (cancel : σ → Bool) (width : Nat)

theorem transferScript_whole (remaining frames : Nat) (scratch : Scratch) (s : σ) :
    (source.transferScript volume cancel width remaining frames scratch s).Whole width := by
  induction remaining using Nat.strongRecOn generalizing frames scratch s with
  | ind remaining ih =>
      rw [transferScript]
      by_cases hremaining : remaining = 0
      · rw [if_pos hremaining]
        exact .done _ _
      · rw [if_neg hremaining]
        by_cases hflag : cancel s = true
        · rw [if_pos hflag]
          exact .done _ _
        · rw [if_neg hflag]
          dsimp only
          by_cases hdry : (source.pull volume remaining scratch s).samples.size = 0
          · rw [if_pos hdry]
            exact .done _ _
          · rw [if_neg hdry]
            exact .cons (monoCall_whole width _) (ih _ (by omega) _ _ _) _

theorem paddedScript_whole (rate : UInt32) (total : Nat) (s : σ) :
    (source.paddedScript volume cancel rate width total s).Whole width := by
  have hsilence := silentCall_whole width (paddingLength rate)
  apply Script.Whole.cons hsilence
  apply Script.Whole.bind
  · exact source.transferScript_whole volume cancel width total 0 .empty s
  · exact .cons hsilence (.done _ _) _

end Source

/-! ## Takes -/

def WaveTake.Framed (width : Nat) (take : WaveTake) : Prop :=
  take.samples.size = take.frames * width

theorem WaveTake.Framed.ext {width : Nat} {first second : WaveTake} (hwidth : 0 < width)
    (hfirst : first.Framed width) (hsecond : second.Framed width)
    (hsamples : first.samples = second.samples) : first = second := by
  obtain ⟨samples, frames⟩ := first
  obtain ⟨samples', frames'⟩ := second
  obtain rfl : samples = samples' := hsamples
  have hframes : frames * width = frames' * width := hfirst.symm.trans hsecond
  rw [Nat.eq_of_mul_eq_mul_right hwidth hframes]

namespace WaveFile

theorem sink_accepts (file : WaveFile) : file.sink.Accepts WaveTake.samples where
  ok _ _ := rfl
  append _ _ := rfl

theorem sink_neverFails (file : WaveFile) : file.sink.NeverFails where
  write _ _ := rfl
  flush _ := rfl

theorem call_framed {file : WaveFile} (hchannels : 0 < file.channels.toNat) {call : SinkCall}
    (hcall : call.Whole file.channels.toNat) {take : WaveTake}
    (h : take.Framed file.channels.toNat) :
    (file.sink.call take call).Framed file.channels.toNat := by
  cases call with
  | flush => exact h
  | write samples =>
      obtain ⟨count, hcount⟩ := hcall
      simp only [WaveTake.Framed, Sink.call, sink, Array.size_append, hcount,
        Nat.mul_div_cancel_left count hchannels, Nat.add_mul]
      rw [h, Nat.mul_comm count]

theorem after_framed {file : WaveFile} (hchannels : 0 < file.channels.toNat)
    {calls : List SinkCall} (hcalls : ∀ call ∈ calls, call.Whole file.channels.toNat)
    {take : WaveTake} (h : take.Framed file.channels.toNat) :
    (file.sink.after calls take).Framed file.channels.toNat := by
  induction calls generalizing take with
  | nil => exact h
  | cons call rest ih =>
      obtain ⟨hcall, hrest⟩ := List.forall_mem_cons.mp hcalls
      exact ih hrest (call_framed hchannels hcall h)

/-! ## Songs -/

def songTake (file : WaveFile) (song : Song) (sine : Bool) (volume : Float32) : WaveTake :=
  let samples :=
    (Synth.ofRate file.rate).render song.pattern song.tempo (song.voicing sine)
  { samples := file.sink.silence ++ file.sink.framed volume samples.toList ++ file.sink.silence
    frames := paddingLength file.rate + samples.size + paddingLength file.rate }

theorem songTake_framed (file : WaveFile) (song : Song) (sine : Bool) (volume : Float32) :
    (file.songTake song sine volume).Framed file.sink.width := by
  simp only [WaveTake.Framed, songTake, Sink.silence, Sink.framed, Array.size_append,
    Array.size_replicate, interleave_size, scaleSamples_size, Nat.add_mul]
  rfl

theorem play_framed {file : WaveFile} (hchannels : file.sink.width = file.channels.toNat)
    (stream : SongStream) (volume : Float32) (cancel : SongStream → Bool) :
    (stream.play file.sink volume cancel emptyTake).out.Framed file.sink.width := by
  have hwhole := SongStream.source.paddedScript_whole volume cancel file.sink.width
    file.sink.rate stream.total stream
  have hpos : 0 < file.channels.toNat := hchannels ▸ Nat.le_max_left 1 _
  have hempty : emptyTake.Framed file.channels.toNat := (Nat.zero_mul _).symm
  rw [SongStream.play, Source.playPadded_follows,
    Script.perform_of_grants _ (file.sink_neverFails.grants ..)]
  rw [hchannels] at hwhole ⊢
  rw [show widthOf file.sink.channels = file.channels.toNat from hchannels]
  exact after_framed hpos hwhole hempty

theorem play_song {file : WaveFile} (hchannels : file.sink.width = file.channels.toNat)
    {song : Song} (hsteps : song.pattern.steps = 16) (sine : Bool) (volume : Float32) :
    let outcome :=
      (SongStream.start file.rate song sine).play file.sink volume neverCancelled emptyTake
    outcome.result = .ok ⟨(SongStream.start file.rate song sine).total, false⟩ ∧
      outcome.out = file.songTake song sine volume := by
  intro outcome
  have htotal : (SongStream.start file.rate song sine).total =
      ((Synth.ofRate file.rate).render song.pattern song.tempo (song.voicing sine)).size := by
    rw [Synth.render_size]
    exact Synth.patternLength_of_sixteen _ _ hsteps
  obtain ⟨hresult, hsamples⟩ := playPadded_delivers file.sink_accepts SongStream.source_supplies
    (SongStream.start file.rate song sine).total volume (SongStream.start file.rate song sine)
    emptyTake
  rw [SongStream.start_upcoming, Array.length_toList, ← htotal, Nat.min_self] at hresult
  rw [SongStream.start_upcoming,
    List.take_of_length_le (Nat.le_of_eq (by rw [Array.length_toList, htotal])),
    show emptyTake.samples = #[] from rfl, Array.empty_append] at hsamples
  exact ⟨hresult, WaveTake.Framed.ext (Nat.le_max_left 1 _) (play_framed hchannels _ _ _)
    (file.songTake_framed song sine volume) hsamples⟩

/-! ## Files -/

theorem create_ok {disk made : Disk} {path : String} {rate : UInt32} {channels : UInt16}
    {file : WaveFile} (h : create disk path rate channels = .ok (file, made)) :
    file = ⟨path, rate, max 1 channels⟩ ∧ disk.write path .empty = .ok made := by
  unfold create at h
  split at h
  · rename_i hwrite
    cases h
    exact ⟨rfl, hwrite⟩
  · cases h

theorem create_width (path : String) (rate : UInt32) (channels : UInt16) :
    (sink ⟨path, rate, max 1 channels⟩).width = (max 1 channels).toNat := by
  apply Nat.max_eq_right
  by_cases hone : 1 ≤ channels
  · rw [show max 1 channels = channels from if_pos hone]
    exact UInt16.le_iff_toNat_le.mp hone
  · rw [show max 1 channels = 1 from if_neg hone]
    exact Nat.le_refl 1

theorem close_of_write {file : WaveFile} {take : WaveTake} {disk made : Disk}
    (h : disk.write file.path .empty = .ok made) (hframed : take.Framed file.channels.toNat) :
    ∃ last, disk.write file.path (file.contents take) = .ok last ∧
      file.close take made = (.ok (), last) := by
  obtain ⟨last, hwrite, hagain⟩ := Disk.write_write h (file.contents take)
  have hwhole : take.samples.size % file.channels.toNat = 0 := by
    rw [hframed, Nat.mul_mod_left]
  refine ⟨last, hwrite, ?_⟩
  simp only [close, hagain, if_pos hwhole]

end WaveFile

end PulseTracker
