import PulseTracker.Proofs.Audio.Delivery
import PulseTracker.Proofs.Synth.Chunking
import PulseTracker.Song.Stream

/-!
# A song on a sink

A song that is played as a stream reaches the sink as the whole render would,
with silence before and after it.  Its length is known beforehand: the total that
a stream announces is what it supplies.
-/

namespace PulseTracker.SongStream

def upcoming (stream : SongStream) : List Int16 :=
  stream.synth.upcoming stream.song.pattern stream.song.tempo stream.voicing stream.cursor

theorem next_upcoming (stream : SongStream) (room : Nat) :
    (stream.next room).2.toList = stream.upcoming.take room ∧
      (stream.next room).1.upcoming = stream.upcoming.drop room := by
  simp only [next, Synth.next_eq_ticks, upcoming]
  exact ⟨Synth.ticks_eq_take .., Synth.upcoming_ticks ..⟩

theorem next_size (stream : SongStream) (room : Nat) :
    (stream.next room).2.size = min room stream.upcoming.length := by
  rw [← Array.length_toList, (stream.next_upcoming room).1, List.length_take]

theorem source_supplies : source.Supplies upcoming :=
  (Source.fillsUp_of_next next (fun _ _ => rfl) (fun stream room => (stream.next_upcoming room).1)
    fun stream room => (stream.next_upcoming room).2).supplies

theorem start_upcoming (rate : UInt32) (song : Song) (sine : Bool) :
    (start rate song sine).upcoming =
      ((Synth.ofRate rate).render song.pattern song.tempo (song.voicing sine)).toList :=
  Synth.upcoming_start ..

/--
A song played as a stream is its whole render played at once, with silence on
both sides.  Both reports name all the samples of the song.
-/
theorem play_eq_padded_playSamples {sink : Sink ω} {received : ω → Array Int16}
    (hsink : sink.Accepts received) (rate : UInt32) (song : Song) (sine : Bool)
    (volume : Float32) (out out' : ω)
    (hfit : (Synth.ofRate rate).stepLength song.tempo * song.pattern.steps ≤
      Synth.countMax) :
    ∃ played,
      received (playSamples sink
          ((Synth.ofRate rate).render song.pattern song.tempo (song.voicing sine))
          volume out').2 = received out' ++ played ∧
      received ((start rate song sine).play sink volume neverCancelled out).out =
        received out ++ sink.silence ++ played ++ sink.silence ∧
      ((start rate song sine).play sink volume neverCancelled out).result =
        .ok ⟨(start rate song sine).total, false⟩ ∧
      (playSamples sink
          ((Synth.ofRate rate).render song.pattern song.tempo (song.voicing sine))
          volume out').1 = .ok ⟨(start rate song sine).total, false⟩ := by
  have htotal : (start rate song sine).total =
      ((Synth.ofRate rate).render song.pattern song.tempo (song.voicing sine)).size := by
    rw [Synth.render_size]
    exact Synth.patternLength_eq _ _ _ hfit
  obtain ⟨hbulk, hplayed⟩ := playSamples_delivers hsink
    ((Synth.ofRate rate).render song.pattern song.tempo (song.voicing sine)) volume out'
  obtain ⟨hresult, hstreamed⟩ := playPadded_delivers hsink source_supplies
    (start rate song sine).total volume (start rate song sine) out
  rw [start_upcoming, htotal, Array.length_toList, Nat.min_self] at hresult
  rw [start_upcoming, htotal, List.take_of_length_le (by simp)] at hstreamed
  refine ⟨_, hplayed, ?_, ?_, ?_⟩
  · simp only [play]
    rw [htotal]
    exact hstreamed
  · simp only [play]
    rw [htotal]
    exact hresult
  · rw [htotal]
    exact hbulk

theorem play_eq_padded_playSamples_one_step :
    let sink : Sink Recording := { Recording.sink 8000 0 with channels := 0 }
    let song : Song := ⟨140, 1, true, ⟨[some 60], [some 67, none], [some 0], 1⟩⟩
    sink.Accepts Recording.samples ∧
      (Synth.ofRate sink.rate).stepLength song.tempo * song.pattern.steps ≤ Synth.countMax ∧
      ∃ played,
        (playSamples sink
            ((Synth.ofRate sink.rate).render song.pattern song.tempo (song.voicing true))
            0.5 .empty).2.samples = Recording.empty.samples ++ played ∧
        ((start sink.rate song true).play sink 0.5 neverCancelled .empty).out.samples =
          Recording.empty.samples ++ sink.silence ++ played ++ sink.silence ∧
        ((start sink.rate song true).play sink 0.5 neverCancelled .empty).result =
          .ok ⟨(start sink.rate song true).total, false⟩ ∧
        (playSamples sink
            ((Synth.ofRate sink.rate).render song.pattern song.tempo (song.voicing true))
            0.5 .empty).1 = .ok ⟨(start sink.rate song true).total, false⟩ := by
  intro sink song
  have hsink : sink.Accepts Recording.samples :=
    ⟨(Recording.sink_accepts 8000 0).ok, (Recording.sink_accepts 8000 0).append⟩
  have hfit : (Synth.ofRate sink.rate).stepLength song.tempo * song.pattern.steps ≤
      Synth.countMax := by
    simpa [song] using (Synth.ofRate sink.rate).stepLength_le_countMax song.tempo
  exact ⟨hsink, hfit, play_eq_padded_playSamples hsink sink.rate song true 0.5 .empty .empty hfit⟩

end PulseTracker.SongStream
