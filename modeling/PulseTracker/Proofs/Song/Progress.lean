import PulseTracker.Proofs.Noise.Session
import PulseTracker.Proofs.Song.Delivery

/-!
# How far a stream is

A stream can be filled, rewound and given other songs in any order.  It is always voiced as its
current song asks, and without a sample since it was rewound it is a new stream of that song.  From
there on the number of samples alone says where it stands, as long as the song stays the same.
-/

namespace PulseTracker.SongStream

def Action.song? : Action → Option Song
  | .exchange song => some song
  | .fill _ | .reset => none

def producedAfter (stream : SongStream) (count : Nat) : Action → Nat
  | .fill room => count + (stream.next room).2.size
  | .exchange _ => count
  | .reset => 0

def produced : SongStream → Nat → List Action → Nat
  | _, count, [] => count
  | stream, count, action :: actions =>
      produced (stream.act action) (stream.producedAfter count action) actions

/-! ## The current song -/

structure Voiced (rate : UInt32) (sine : Bool) (stream : SongStream) : Prop where
  synth : stream.synth = .ofRate rate
  voicing : stream.voicing = stream.song.voicing sine

section Voiced

variable {rate : UInt32} {sine : Bool} {stream : SongStream}

theorem start_voiced (rate : UInt32) (song : Song) (sine : Bool) :
    (start rate song sine).Voiced rate sine := ⟨rfl, rfl⟩

theorem Voiced.setSong (h : stream.Voiced rate sine) (song : Song) :
    (stream.setSong song).Voiced rate sine where
  synth := h.synth
  voicing := by simp only [SongStream.setSong, h.voicing, Song.voicing]

theorem Voiced.act (h : stream.Voiced rate sine) (action : Action) :
    (stream.act action).Voiced rate sine := by
  cases action with
  | fill room | reset => exact ⟨h.synth, h.voicing⟩
  | exchange song => exact h.setSong song

theorem Voiced.run (h : stream.Voiced rate sine) (actions : List Action) :
    (stream.run actions).Voiced rate sine := by
  induction actions generalizing stream with
  | nil => exact h
  | cons action actions ih => exact ih (h.act action)

/-- Rate, song and choice of a sine are all that a stream at its start depends on. -/
theorem Voiced.eq_start (h : stream.Voiced rate sine) (hcursor : stream.cursor = .start)
    (hstarted : stream.started = false) : stream = start rate stream.song sine := by
  obtain ⟨synth, song, voicing, cursor, started⟩ := stream
  simp only [start, SongStream.mk.injEq, true_and]
  exact ⟨h.synth, h.voicing, hcursor, hstarted⟩

end Voiced

theorem act_song (stream : SongStream) (action : Action) :
    (stream.act action).song = action.song?.getD stream.song := by
  cases action with
  | fill room | exchange song | reset => rfl

theorem run_song (stream : SongStream) (actions : List Action) :
    (stream.run actions).song = (actions.filterMap Action.song?).getLastD stream.song := by
  induction actions generalizing stream with
  | nil => rfl
  | cons action actions ih =>
      show ((stream.act action).run actions).song = _
      rw [ih, act_song]
      cases hsong : action.song? with
      | none => rw [List.filterMap_cons_none hsong, Option.getD_none]
      | some song => rw [List.filterMap_cons_some hsong, Option.getD_some, List.getLastD_cons]

/--
After any history a stream plays the last song it was given, in the voicing of that song and with
the choice of a sine it was started with.  With a new song and a reset, in either order, it is the
new stream of that song.
-/
theorem voicing_of_history (rate : UInt32) (song : Song) (sine : Bool) (history : List Action) :
    let stream := (start rate song sine).run history
    stream.song = (history.filterMap Action.song?).getLastD song ∧
      stream.voicing = stream.song.voicing sine ∧
      ∀ next : Song,
        (stream.setSong next).reset = start rate next sine ∧
          stream.reset.setSong next = start rate next sine := by
  intro stream
  have hvoiced : stream.Voiced rate sine := (start_voiced rate song sine).run history
  refine ⟨run_song _ history, hvoiced.voicing, fun next => ⟨?_, ?_⟩⟩
  · exact ((hvoiced.setSong next).act .reset).eq_start rfl rfl
  · exact ((hvoiced.act .reset).setSong next).eq_start rfl rfl

/-! ## Samples since the last reset -/

theorem next_started (stream : SongStream) (room : Nat) :
    (stream.next room).1.started = (stream.started || decide (0 < (stream.next room).2.size)) := by
  rw [Bool.eq_iff_iff]
  simp [next, Nat.pos_iff_ne_zero]

theorem next_split (stream : SongStream) (n m : Nat) :
    stream.next (n + m) =
      (((stream.next n).1.next m).1, (stream.next n).2 ++ ((stream.next n).1.next m).2) := by
  have hsamples : (stream.next (n + m)).2 =
      (stream.next n).2 ++ ((stream.next n).1.next m).2 := by
    simp only [next, Synth.next_eq_ticks, Synth.ticks_add, List.append_toArray]
  have hcursor : (stream.next (n + m)).1.cursor = ((stream.next n).1.next m).1.cursor := by
    simp only [next, Synth.next_eq_ticks, Synth.ticks_add]
  have hstarted : (stream.next (n + m)).1.started = ((stream.next n).1.next m).1.started := by
    simp only [next_started, hsamples, Array.size_append, Bool.or_assoc, Nat.add_pos_iff_pos_or_pos,
      Bool.decide_or]
  refine Prod.ext ?_ hsamples
  show SongStream.mk _ _ _ _ _ = SongStream.mk _ _ _ _ _
  exact congrArg₂ (SongStream.mk stream.synth stream.song stream.voicing) hcursor hstarted

theorem next_zero (stream : SongStream) : stream.next 0 = (stream, #[]) := by
  simp [next, Synth.next_eq_ticks, Synth.ticks]

theorem run_fills (stream : SongStream) (rooms : List Nat) :
    stream.run (rooms.map .fill) = (stream.next rooms.sum).1 := by
  induction rooms generalizing stream with
  | nil => rw [List.sum_nil, next_zero]; rfl
  | cons room rooms ih =>
      rw [List.sum_cons, next_split]
      exact ih (stream.next room).1

theorem produced_fills (stream : SongStream) (count : Nat) (rooms : List Nat) :
    stream.produced count (rooms.map .fill) = count + (stream.next rooms.sum).2.size := by
  induction rooms generalizing stream count with
  | nil => rw [List.sum_nil, next_zero]; rfl
  | cons room rooms ih =>
      rw [List.sum_cons, next_split, Array.size_append, ← Nat.add_assoc]
      exact ih (stream.next room).1 _

structure Counted (count : Nat) (stream : SongStream) : Prop where
  started : stream.started = decide (0 < count)
  fresh : count = 0 → stream.cursor = .start

theorem start_counted (rate : UInt32) (song : Song) (sine : Bool) :
    (start rate song sine).Counted 0 := ⟨rfl, fun _ => rfl⟩

theorem next_of_dry {stream : SongStream} (hcursor : stream.cursor = .start) {room : Nat}
    (hdry : (stream.next room).2.size = 0) : (stream.next room).1.cursor = .start := by
  simp only [next, Synth.next_eq_ticks, hcursor, List.size_toArray] at hdry ⊢
  rw [(Synth.ticks_remaining ..).1, Synth.start_remaining, Nat.min_eq_zero_iff,
    Nat.mul_eq_zero] at hdry
  rcases hdry with rfl | hsize | hsteps
  · rfl
  · exact absurd hsize (Nat.ne_of_gt (stream.synth.stepLength_pos _))
  · rw [Synth.ticks_of_finished]
    exact Nat.le_of_eq hsteps

theorem Counted.act {stream : SongStream} {count : Nat} (h : stream.Counted count)
    (action : Action) : (stream.act action).Counted (stream.producedAfter count action) := by
  cases action with
  | fill room =>
      refine ⟨?_, fun hnone => ?_⟩
      · simp only [SongStream.act, producedAfter, next_started, h.started,
          Nat.add_pos_iff_pos_or_pos, Bool.decide_or]
      · obtain ⟨hcount, hdry⟩ := Nat.add_eq_zero_iff.mp hnone
        exact next_of_dry (h.fresh hcount) hdry
  | exchange song => exact ⟨h.started, h.fresh⟩
  | reset => exact ⟨rfl, fun _ => rfl⟩

theorem Counted.run {stream : SongStream} {count : Nat} (h : stream.Counted count)
    (actions : List Action) :
    (stream.run actions).Counted (stream.produced count actions) := by
  induction actions generalizing stream count with
  | nil => exact h
  | cons action actions ih => exact ih (h.act action)

theorem Counted.playhead_isSome {stream : SongStream} {count : Nat} (h : stream.Counted count) :
    stream.playhead.isSome ↔ 0 < stream.song.pattern.steps ∧ 0 < count := by
  simp only [playhead, h.started, Option.isSome_ite, decide_eq_true_eq]
  omega

theorem eq_of_playhead {stream : SongStream} {step : Nat} (h : stream.playhead = some step) :
    step = min stream.cursor.step (stream.song.pattern.steps - 1) := by
  unfold playhead at h
  split at h
  · exact (Option.some.inj h).symm
  · cases h

theorem playhead_lt {stream : SongStream} {step : Nat} (h : stream.playhead = some step) :
    step < stream.song.pattern.steps := by
  unfold playhead at h
  split at h
  · cases h
    omega
  · cases h

/-! ## Samples of one song -/

theorem start_upcoming_length (rate : UInt32) (song : Song) (sine : Bool) :
    (start rate song sine).upcoming.length =
      (Synth.ofRate rate).stepLength song.tempo * song.pattern.steps := by
  rw [start_upcoming, Array.length_toList, Synth.render_size]

theorem start_next_place (rate : UInt32) (song : Song) (sine : Bool) (room : Nat) :
    let now := (start rate song sine).next room
    let size := (Synth.ofRate rate).stepLength song.tempo
    now.1.cursor.step = now.2.size / size ∧ now.1.cursor.offset = now.2.size % size := by
  intro now size
  have hpos : 0 < size := (Synth.ofRate rate).stepLength_pos song.tempo
  let ticked :=
    (Synth.ofRate rate).ticks song.pattern song.tempo (song.voicing sine) room .start
  have hnow : (now.1.cursor, now.2) = (ticked.1, ticked.2.toArray) := Synth.next_eq_ticks ..
  obtain ⟨hcursor, hsamples⟩ := Prod.mk.inj hnow
  have hstart : Cursor.start.offset < size := hpos
  have hinside : ticked.1.offset < size := Synth.ticks_offset_lt _ _ _ _ room hstart
  have hplace : ticked.1.offset + size * ticked.1.step = ticked.2.length :=
    (Synth.ticks_place _ _ _ _ room hstart).trans (Nat.zero_add _)
  rw [hcursor, hsamples, List.size_toArray, eq_comm, eq_comm (a := ticked.1.offset)]
  exact (Nat.div_mod_unique hpos).mpr ⟨hplace, hinside⟩

theorem start_next_playhead (rate : UInt32) (song : Song) (sine : Bool) {room : Nat}
    (hsome : 0 < ((start rate song sine).next room).2.size) :
    ((start rate song sine).next room).1.playhead =
      some (min (((start rate song sine).next room).2.size /
        (Synth.ofRate rate).stepLength song.tempo) (song.pattern.steps - 1)) := by
  have hsteps : song.pattern.steps ≠ 0 := by
    intro hnone
    rw [next_size, start_upcoming_length, hnone, Nat.mul_zero, Nat.min_zero] at hsome
    exact Nat.lt_irrefl 0 hsome
  have hstarted : ((start rate song sine).next room).1.started = true := by
    rw [next_started, decide_eq_true hsome, Bool.or_true]
  rw [playhead, if_pos ⟨hstarted, hsteps⟩, (start_next_place rate song sine room).1]
  rfl

/--
A stream has a playhead exactly when its pattern has a step and a sample was made since it was
created or rewound, and the playhead is a step of the pattern.  When none was made yet and the song
stays the same from there, the number of samples says which step it is, and how far into it.
-/
theorem playhead_of_history (rate : UInt32) (song : Song) (sine : Bool) (history : List Action)
    (rooms : List Nat) :
    let first := start rate song sine
    let stream := first.run history
    let count := first.produced 0 history
    let steps := stream.song.pattern.steps
    (stream.playhead.isSome ↔ 0 < steps ∧ 0 < count) ∧
      (∀ step, stream.playhead = some step → step < steps) ∧
      (count = 0 →
        let later := stream.run (rooms.map .fill)
        let total := stream.produced 0 (rooms.map .fill)
        let size := (Synth.ofRate rate).stepLength stream.song.tempo
        later.cursor.step = total / size ∧ later.cursor.offset = total % size ∧
          (0 < total → later.playhead = some (min (total / size) (steps - 1)))) := by
  intro first stream count steps
  have hcounted : stream.Counted count := (start_counted rate song sine).run history
  have hvoiced : stream.Voiced rate sine := (start_voiced rate song sine).run history
  refine ⟨hcounted.playhead_isSome, fun step hstep => playhead_lt hstep, ?_⟩
  intro hnone later total size
  -- without a sample since the reset the stream is a new one of its song
  have hfresh : stream = start rate stream.song sine := by
    refine hvoiced.eq_start (hcounted.fresh hnone) ?_
    rw [hcounted.started, hnone]
    rfl
  have hlater : later = ((start rate stream.song sine).next rooms.sum).1 := by
    rw [← hfresh]
    exact run_fills stream rooms
  have htotal : total = ((start rate stream.song sine).next rooms.sum).2.size := by
    rw [← hfresh]
    exact (produced_fills stream 0 rooms).trans (Nat.zero_add _)
  obtain ⟨hstep, hoffset⟩ := start_next_place rate stream.song sine rooms.sum
  rw [hlater, htotal]
  exact ⟨hstep, hoffset, start_next_playhead rate stream.song sine⟩

theorem playhead_of_history_after_exchange :
    let song : Song := ⟨120, 1, true, ⟨[some 60], [some 67, none], [some 0], 2⟩⟩
    let next : Song := ⟨150, 2, false, ⟨[some 64], [], [], 3⟩⟩
    let first := start 8000 song true
    let history : List Action := [.fill 1700, .reset, .exchange next, .fill 0]
    let stream := first.run history
    let rooms := [3, 0, 798]
    let later := stream.run (rooms.map .fill)
    first.produced 0 history = 0 ∧ stream.produced 0 (rooms.map .fill) = 801 ∧
      later.cursor.step = 1 ∧ later.cursor.offset = 1 ∧ later.playhead = some 1 ∧
      1 < later.song.pattern.steps := by
  intro song next first history stream rooms later
  have hstream : stream = start 8000 next true :=
    congrArg Prod.fst (next_zero ((first.next 1700).1.reset.setSong next))
  have hnone : first.produced 0 history = 0 :=
    congrArg (fun now => 0 + now.2.size) (next_zero ((first.next 1700).1.reset.setSong next))
  have hsize : (Synth.ofRate 8000).stepLength 150 = 800 := by decide +kernel
  have htotal : stream.produced 0 (rooms.map .fill) = 801 := by
    rw [produced_fills, hstream, next_size, start_upcoming_length]
    show 0 + min 801 ((Synth.ofRate 8000).stepLength 150 * 3) = 801
    rw [hsize]
    decide
  obtain ⟨-, -, hlater⟩ := playhead_of_history 8000 song true history rooms
  obtain ⟨hstep, hoffset, hplayhead⟩ := hlater hnone
  rw [htotal, show stream.song = next from congrArg SongStream.song hstream, hsize]
    at hstep hoffset hplayhead
  have hshown : later.playhead = some 1 := hplayhead (by decide)
  have hrun : first.run (history ++ rooms.map .fill) = later := List.foldl_append
  obtain ⟨-, hbound, -⟩ := playhead_of_history 8000 song true (history ++ rooms.map .fill) []
  rw [hrun] at hbound
  exact ⟨hnone, htotal, hstep, hoffset, hshown, hbound 1 hshown⟩

end PulseTracker.SongStream
