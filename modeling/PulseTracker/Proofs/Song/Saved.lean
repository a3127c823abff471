import PulseTracker.Proofs.Audio.Likeness
import PulseTracker.Proofs.Song.RoundTrip
import PulseTracker.Proofs.Store.Law
import PulseTracker.Proofs.Synth.Editing
import PulseTracker.Song.Saved

/-!
# A saved song sounds as it did

The song that a slot gives back is in general another one than was saved: its
lists have sixteen entries, and its duty index is one of four.  It sounds the same
all the same, as long as the text can say every entry that is heard: a stream
reads no more of a song than its tempo, its voicing and the entries of its steps.
-/

namespace PulseTracker

structure Pattern.SoundsLike (p q : Pattern) : Prop where
  steps : p.steps = q.steps
  agree : ∀ step, step < p.steps → p.AgreeAt q step

namespace Synth

variable (synth : Synth) (bpm : UInt32) (voicing : Voicing)

theorem tick_of_soundsLike {p q : Pattern} (h : p.SoundsLike q) (cursor : Cursor) :
    synth.tick p bpm voicing cursor = synth.tick q bpm voicing cursor := by
  have finished (here : Cursor) (hover : p.steps ≤ here.step) :
      synth.tick p bpm voicing here = synth.tick q bpm voicing here := by
    rw [tick_of_finished synth p bpm voicing hover,
      tick_of_finished synth q bpm voicing (h.steps ▸ hover)]
  by_cases hstep : cursor.step < p.steps
  · rw [tick_settle synth p bpm voicing hstep, tick_settle synth q bpm voicing (h.steps ▸ hstep)]
    by_cases hnext : (cursor.settle (synth.stepLength bpm)).step < p.steps
    · exact synth.tick_of_agree bpm voicing
        (Cursor.settle_offset_lt (synth.stepLength_pos bpm) cursor) hnext (h.steps ▸ hnext)
        (h.agree _ hnext)
    · exact finished _ (Nat.not_lt.mp hnext)
  · exact finished cursor (Nat.not_lt.mp hstep)

theorem ticks_of_soundsLike {p q : Pattern} (h : p.SoundsLike q) (count : Nat)
    (cursor : Cursor) :
    synth.ticks p bpm voicing count cursor = synth.ticks q bpm voicing count cursor := by
  induction count generalizing cursor with
  | zero => rfl
  | succ count ih =>
      simp only [ticks]
      rw [synth.tick_of_soundsLike bpm voicing h cursor, ih]

end Synth

/-! ## Streams -/

structure SongStream.SoundsLike (first second : SongStream) : Prop where
  synth : first.synth = second.synth
  voicing : first.voicing = second.voicing
  cursor : first.cursor = second.cursor
  tempo : first.song.tempo = second.song.tempo
  pattern : first.song.pattern.SoundsLike second.song.pattern

theorem SongStream.SoundsLike.next {first second : SongStream} (h : first.SoundsLike second)
    (room : Nat) :
    (first.next room).2 = (second.next room).2 ∧
      (first.next room).1.SoundsLike (second.next room).1 := by
  have hticks := first.synth.ticks_of_soundsLike first.song.tempo first.voicing h.pattern room
    first.cursor
  simp only [SongStream.next, Synth.next_eq_ticks, hticks]
  rw [h.synth, h.voicing, h.cursor, h.tempo]
  exact ⟨rfl, rfl, rfl, rfl, h.tempo, h.pattern⟩

theorem SongStream.source_alike : source.Alike source SongStream.SoundsLike where
  claimed {room} _ _ _ h := congrArg Array.size (h.next room).1
  buffer {room} buffer _ _ h := congrArg (overwrite · buffer) (h.next room).1
  source {room} _ _ _ h := (h.next room).2

/-! ## Songs -/

structure Song.SoundsLike (first second : Song) : Prop where
  tempo : first.tempo = second.tempo
  duty : first.duty = second.duty
  shortNoise : first.shortNoise = second.shortNoise
  pattern : first.pattern.SoundsLike second.pattern

theorem Song.SoundsLike.start {first second : Song} (h : first.SoundsLike second) (rate : UInt32)
    (sine : Bool) :
    (SongStream.start rate first sine).SoundsLike (SongStream.start rate second sine) where
  synth := rfl
  voicing := by simp only [SongStream.start, Song.voicing, h.duty, h.shortNoise]
  cursor := rfl
  tempo := h.tempo
  pattern := h.pattern

theorem Song.SoundsLike.total {first second : Song} (h : first.SoundsLike second) (rate : UInt32)
    (sine : Bool) :
    (SongStream.start rate first sine).total = (SongStream.start rate second sine).total := by
  simp only [SongStream.total, SongStream.start, Synth.patternLength, h.tempo, h.pattern.steps]

/-- Songs that sound alike are played alike, on every sink and with the flag raised at any point. -/
theorem Song.SoundsLike.play {first second : Song} (h : first.SoundsLike second) (rate : UInt32)
    (sine : Bool) (sink : Sink ω) (volume : Float32) (flag : Cursor → Bool) (out : ω) :
    ((SongStream.start rate first sine).play sink volume (flag ·.cursor) out).result =
        ((SongStream.start rate second sine).play sink volume (flag ·.cursor) out).result ∧
      ((SongStream.start rate first sine).play sink volume (flag ·.cursor) out).out =
        ((SongStream.start rate second sine).play sink volume (flag ·.cursor) out).out := by
  simp only [SongStream.play, h.total rate sine]
  exact SongStream.source_alike.playPadded (fun hst => congrArg flag hst.cursor) sink _ volume
    (h.start rate sine) out

namespace Song

/-- A song of which the text says everything that is heard. -/
structure Sayable (song : Song) : Prop where
  steps : song.pattern.steps = 16
  tempo : 1 ≤ song.tempo
  lead : ∀ step < 16, ∀ note ∈ song.pattern.leadAt step, note ≤ 127
  harmony : ∀ step < 16, ∀ note ∈ song.pattern.harmonyAt step, note ≤ 127
  noise : ∀ step < 16, ∀ pitch ∈ song.pattern.noiseAt step, pitch ≤ 2

theorem normalEntries_at {top : UInt8} {entryAt : Nat → Option UInt8} {step : Nat}
    (hstep : step < 16) (h : ∀ value ∈ entryAt step, value ≤ top) :
    (normalEntries top entryAt)[step]?.join = entryAt step := by
  simp only [normalEntries, List.getElem?_map, List.getElem?_range hstep, Option.map_some,
    Option.join_some]
  cases hentry : entryAt step with
  | none => rfl
  | some value =>
      have hle := h value hentry
      simp [Std.min_eq_if, hle]

theorem normalized_duty (song : Song) : song.normalized.duty = song.duty := by
  by_cases hsmall : song.dutyIndex ≤ 2
  · simp only [duty, normalized, if_pos hsmall]
  · -- index 3 and the indices past the table mean the same
    have hwide : 3 ≤ song.dutyIndex.toNat := by
      rw [UInt8.le_iff_toNat_le] at hsmall
      exact Nat.lt_of_not_le hsmall
    simp only [duty, normalized, if_neg hsmall]
    rcases Nat.lt_or_eq_of_le hwide with hpast | hlast
    · rw [List.getD_eq_getElem?_getD (i := song.dutyIndex.toNat), List.getElem?_eq_none hpast]
      rfl
    · rw [← hlast]
      rfl

theorem Sayable.normalized_soundsLike {song : Song} (h : song.Sayable) :
    song.normalized.SoundsLike song where
  tempo := by
    have hne : song.tempo ≠ 0 := by
      intro hzero
      exact absurd (hzero ▸ h.tempo) (by decide)
    simp only [normalized, if_neg hne]
  duty := song.normalized_duty
  shortNoise := rfl
  pattern := by
    refine ⟨h.steps.symm, fun step hstep => ⟨?_, ?_, ?_⟩⟩
    · exact normalEntries_at hstep (h.lead step hstep)
    · exact normalEntries_at hstep (h.harmony step hstep)
    · exact normalEntries_at hstep (h.noise step hstep)

theorem toText_isEmpty (song : Song) : song.toText.isEmpty = false := by
  simp [toText, toChars, fieldText]

theorem ofText_toText (song : Song) : ofText song.toText = song.normalized := by
  rw [ofText, toText, String.toList_ofList]
  simpa using song.ofChars_toChars_append []

end Song

/-! ## Slots -/

namespace Slot

theorem load_of_save {store : Store κ} (hstore : store.GivesBack) {slot : Slot} {song : Song}
    {kept kept' : κ} (hsave : slot.save song store kept = (.ok (), kept')) :
    slot.load store kept' = some song.normalized := by
  rw [load, hstore hsave]
  simp only [song.toText_isEmpty, Bool.false_eq_true, if_false, song.ofText_toText]

/--
Playing a slot after a song was saved in it is playing that song: the sink gets the same writes
and the report is the same, whatever the sink does and wherever the flag is raised.
-/
theorem play_of_save {store : Store κ} (hstore : store.GivesBack) {slot : Slot} {song : Song}
    (hsong : song.Sayable) {kept kept' : κ}
    (hsave : slot.save song store kept = (.ok (), kept')) (sink : Sink ω) (volume : Float32)
    (flag : Cursor → Bool) (out : ω) :
    let original := (SongStream.start sink.rate song true).play sink volume (flag ·.cursor) out
    slot.play sink store kept' volume (flag ·.cursor) out =
      (original.result.map some, original.out) := by
  intro original
  obtain ⟨hresult, hout⟩ :=
    hsong.normalized_soundsLike.play sink.rate true sink volume flag out
  rw [play, load_of_save hstore hsave]
  simp only [hresult, hout]
  rfl

theorem play_of_save_wide_song :
    let store := tableStore
    let song : Song :=
      ⟨90, 200, true, ⟨[some 127, none], List.replicate 16 none ++ [some 200], [some 2], 16⟩⟩
    let kept := Table.empty.insert "song2" "tempo=60;"
    let kept' := kept.insert "song2" song.toText
    let sink : Sink Recording :=
      { Recording.sink 8000 2 with
        write := fun samples out =>
          if out.writes < 3 then (Recording.sink 8000 2).write samples out
          else (.error .disconnected, out) }
    let flag (cursor : Cursor) : Bool := 2 ≤ cursor.step
    let original :=
      (SongStream.start sink.rate song true).play sink 0.5 (flag ·.cursor) .empty
    store.GivesBack ∧ song.Sayable ∧ Slot.second.save song store kept = (.ok (), kept') ∧
      Slot.second.play sink store kept' 0.5 (flag ·.cursor) .empty =
        (original.result.map some, original.out) := by
  intro store song kept kept' sink flag
  have hstore : store.GivesBack := tableStore_lawful.givesBack
  have hsong : song.Sayable :=
    ⟨rfl, by decide, by decide +kernel, by decide +kernel, by decide +kernel⟩
  have hsave : Slot.second.save song store kept = (.ok (), kept') := rfl
  exact ⟨hstore, hsong, hsave, play_of_save hstore hsong hsave sink 0.5 flag .empty⟩

end Slot

end PulseTracker
