import PulseTracker.Proofs.Audio.Calls
import PulseTracker.Proofs.Synth.Magnitude

/-!
# The samples of a tone

A tone has a whole of samples, the last of them silent, and hands it out in order.  It does not
matter which buffers it is lent: a border may fall into the sine, into the fade or into the
silence, and the phase goes on behind it.
-/

namespace PulseTracker

theorem scaleSamples_one (samples : Array Int16) : scaleSamples 1 samples = samples := by
  unfold scaleSamples
  dsimp only
  rw [if_pos (by decide)]

namespace Burst

/-! ## One sample after the other -/

def after : Nat → Burst → Burst
  | 0, burst => burst
  | count + 1, burst => after count burst.next.2

def samples : Nat → Burst → List Int16
  | 0, _ => []
  | count + 1, burst => burst.next.1 :: samples count burst.next.2

@[simp] theorem next_position (burst : Burst) : burst.next.2.position = burst.position + 1 := by
  unfold next
  split <;> rfl

@[simp] theorem next_sound (burst : Burst) :
    burst.next.2.body + burst.next.2.fade = burst.body + burst.fade := by
  unfold next
  split <;> rfl

@[simp] theorem next_total (burst : Burst) : burst.next.2.total = burst.total := by
  unfold next
  split <;> rfl

theorem after_sound (count : Nat) (burst : Burst) :
    (after count burst).body + (after count burst).fade = burst.body + burst.fade := by
  induction count generalizing burst with
  | zero => rfl
  | succ count ih => rw [after, ih, next_sound]

theorem after_position (count : Nat) (burst : Burst) :
    (after count burst).position = burst.position + count := by
  induction count generalizing burst with
  | zero => rfl
  | succ count ih =>
      rw [after, ih, next_position]
      omega

theorem after_total (count : Nat) (burst : Burst) : (after count burst).total = burst.total := by
  induction count generalizing burst with
  | zero => rfl
  | succ count ih => rw [after, ih, next_total]

theorem samples_length (count : Nat) (burst : Burst) : (samples count burst).length = count := by
  induction count generalizing burst with
  | zero => rfl
  | succ count ih => rw [samples, List.length_cons, ih]

theorem samples_add (first second : Nat) (burst : Burst) :
    samples (first + second) burst = samples first burst ++ samples second (after first burst) := by
  induction first generalizing burst with
  | zero => rw [Nat.zero_add]; rfl
  | succ first ih => rw [Nat.succ_add, samples, ih]; rfl

theorem samples_of_silent {burst : Burst} (h : burst.body + burst.fade ≤ burst.position)
    (count : Nat) : samples count burst = List.replicate count 0 := by
  induction count generalizing burst with
  | zero => rfl
  | succ count ih =>
      have hnext : burst.next.2.body + burst.next.2.fade ≤ burst.next.2.position := by
        rw [next_sound, next_position]
        omega
      have hzero : burst.next.1 = 0 := by rw [next, if_neg (Nat.not_lt.mpr h)]
      rw [samples, ih hnext, hzero, List.replicate_succ]

theorem extend_eq (count : Nat) (burst : Burst) (before : Array Int16) :
    extend count burst before = (after count burst, before ++ (samples count burst).toArray) := by
  induction count generalizing burst before with
  | zero => simp [extend, after, samples]
  | succ count ih => simp [extend, after, samples, ih]

/-! ## What is left -/

def left (burst : Burst) : Nat := burst.total - burst.position

def upcoming (burst : Burst) : List Int16 := samples burst.left burst

theorem upcoming_length (burst : Burst) : burst.upcoming.length = burst.left :=
  samples_length ..

theorem after_left (count : Nat) (burst : Burst) :
    (after count burst).left = burst.left - count := by
  rw [left, after_total, after_position, Nat.sub_add_eq]
  rfl

theorem upcoming_split {count : Nat} {burst : Burst} (h : count ≤ burst.left) :
    burst.upcoming = samples count burst ++ (after count burst).upcoming := by
  rw [upcoming, upcoming, after_left, ← samples_add, Nat.add_sub_cancel' h]

theorem take_upcoming {count : Nat} {burst : Burst} (h : count ≤ burst.left) :
    burst.upcoming.take count = samples count burst := by
  rw [upcoming_split h, List.take_left' (samples_length count burst)]

theorem drop_upcoming {count : Nat} {burst : Burst} (h : count ≤ burst.left) :
    burst.upcoming.drop count = (after count burst).upcoming := by
  rw [upcoming_split h, List.drop_left' (samples_length count burst)]

theorem finished_iff (burst : Burst) : burst.finished = true ↔ burst.left = 0 := by
  rw [finished, left, decide_eq_true_iff, Nat.sub_eq_zero_iff_le]

theorem render_eq (burst : Burst) (room : Nat) :
    burst.render room = (after (min room burst.left) burst,
      (samples (min room burst.left) burst).toArray) := by
  simp only [render, extend_eq, Array.empty_append, left]

theorem source_fillsUp : source.FillsUp upcoming := by
  refine Source.fillsUp_of_next render (fun _ _ => rfl) (fun burst room => ?_) fun burst room => ?_
  · rw [render_eq, List.take_eq_take_min, upcoming_length, take_upcoming (Nat.min_le_right ..)]
  · rw [render_eq, List.drop_eq_drop_min, upcoming_length, drop_upcoming (Nat.min_le_right ..)]

/-! ## Cell by cell -/

def next? (burst : Burst) : Option (Int16 × Burst) :=
  let sounding (amplitude : Float32) : Int16 × Burst :=
    (truncateLevel (sine burst.phase * amplitude),
      { burst with phase := burst.nextPhase, position := burst.position + 1 })
  if burst.position < burst.body then some (sounding burst.volume)
  else if burst.position < burst.body + burst.fade then
    let into := (burst.position - burst.body).toUInt64.toFloat32
    some (sounding (burst.volume * (1 - into / burst.fade.toUInt64.toFloat32)))
  else if burst.position < burst.total then
    some (0, { burst with position := burst.position + 1 })
  else none

/-- Cells that are overwritten one after the other, up to the first for which there is no sample:
their number, all the cells, and the tone behind them. -/
def overwriteCells (burst : Burst) : List Int16 → Nat × List Int16 × Burst
  | [] => (0, [], burst)
  | cell :: rest =>
      match burst.next? with
      | none => (0, cell :: rest, burst)
      | some (sample, burst) =>
          let (count, cells, burst) := overwriteCells burst rest
          (count + 1, sample :: cells, burst)

theorem next?_eq (burst : Burst) :
    burst.next? = if burst.left = 0 then none else some burst.next := by
  have hleft : burst.left = 0 ↔ burst.body + burst.fade + burst.silence ≤ burst.position :=
    Nat.sub_eq_zero_iff_le
  unfold next? next amplitude
  by_cases hbody : burst.position < burst.body
  · rw [if_pos hbody, if_neg (by omega), if_pos (by omega), if_pos hbody]
  · by_cases hfade : burst.position < burst.body + burst.fade
    · rw [if_neg hbody, if_pos hfade, if_neg (by omega), if_pos hfade, if_neg hbody]
    · rw [if_neg hbody, if_neg hfade, if_neg hfade]
      by_cases hsilence : burst.position < burst.total
      · rw [if_pos hsilence, if_neg (hleft.not.mpr (Nat.not_le.mpr hsilence))]
      · rw [if_neg hsilence, if_pos (hleft.mpr (Nat.not_lt.mp hsilence))]

theorem overwriteCells_eq (cells : List Int16) (burst : Burst) :
    burst.overwriteCells cells =
      (min cells.length burst.left,
        burst.upcoming.take cells.length ++ cells.drop burst.left,
        after (min cells.length burst.left) burst) := by
  induction cells generalizing burst with
  | nil => simp [overwriteCells, after]
  | cons cell rest ih =>
      rw [overwriteCells, next?_eq]
      by_cases hdry : burst.left = 0
      · simp [hdry, upcoming, samples, after]
      -- one cell is overwritten, and the rest of the loop is the loop for the next position
      · have hnext : burst.next.2.left = burst.left - 1 := after_left 1 burst
        have hcount : min (rest.length + 1) burst.left =
            min rest.length burst.next.2.left + 1 := by omega
        have hcells : burst.upcoming = burst.next.1 :: burst.next.2.upcoming :=
          upcoming_split (show 1 ≤ burst.left by omega)
        have hrest : (cell :: rest).drop burst.left = rest.drop burst.next.2.left := by
          rw [show burst.left = burst.next.2.left + 1 by omega, List.drop_succ_cons]
        rw [if_neg hdry]
        simp only [ih, List.length_cons, hcount, hcells, hrest, List.take_succ_cons,
          List.cons_append, after]

/-- A fill is that loop over the cells of its buffer. -/
theorem source_fill_eq_overwriteCells (buffer : Vector Int16 room) (burst : Burst) :
    let filled := source.fill buffer burst
    (filled.claimed, filled.buffer.toList, filled.source) =
      burst.overwriteCells buffer.toList := by
  intro filled
  have hbuffer := source_fillsUp.buffer buffer burst
  rw [upcoming_length] at hbuffer
  rw [overwriteCells_eq, Vector.length_toList, ← hbuffer]
  simp only [filled, source, render_eq, List.size_toArray, samples_length]

/-! ## Whole tones -/

def whole (burst : Burst) : List Int16 :=
  (source.fill (Vector.replicate burst.total 0) burst).buffer.toList

theorem source_fill_whole {burst : Burst} (hstart : burst.position = 0)
    (buffer : Vector Int16 burst.total) :
    (source.fill buffer burst).buffer.toList = burst.upcoming := by
  have hleft : burst.left = burst.total := by rw [left, hstart, Nat.sub_zero]
  rw [source_fillsUp.buffer, upcoming_length, hleft, List.drop_of_length_le (by simp),
    List.append_nil, List.take_of_length_le (by rw [upcoming_length, hleft])]

variable (tone : Tone) (volume : Float32) (rate : UInt32)

theorem start_whole : (start tone volume rate).whole = (start tone volume rate).upcoming :=
  source_fill_whole rfl _

theorem start_whole_length :
    (start tone volume rate).whole.length = (start tone volume rate).total := by
  rw [start_whole, upcoming_length]
  rfl

theorem start_whole_drop :
    let burst := start tone volume rate
    burst.whole.drop (burst.total - burst.silence) = List.replicate burst.silence 0 := by
  intro burst
  have hsound : burst.total - burst.silence = burst.body + burst.fade := Nat.add_sub_cancel ..
  have hleft : burst.left = burst.total := Nat.sub_zero _
  have hsilence : burst.left - (burst.body + burst.fade) = burst.silence := by
    rw [hleft]
    exact Nat.add_sub_cancel_left ..
  have hposition : (after (burst.body + burst.fade) burst).position = burst.body + burst.fade := by
    rw [after_position]
    exact Nat.zero_add _
  have hwhole : burst.whole = burst.upcoming := start_whole tone volume rate
  rw [hwhole, hsound, drop_upcoming (by omega), upcoming, after_left, hsilence]
  exact samples_of_silent (by rw [after_sound, hposition]) _

theorem start_total_lt : (start tone volume rate).total < 2 ^ 60 := by
  have hthousand : Magnitude.AtLeast 9 (1000 : Float32).toModel.unpack := by decide
  have hseconds := Magnitude.Float32.div_below (by decide) (by decide)
    (Magnitude.toFloat32_below tone.milliseconds) hthousand
  have hsamples := Magnitude.Float32.mul_below (by decide) (by decide) hseconds
    (Magnitude.toFloat32_below (max rate 1))
  have hbody : (start tone volume rate).body < 2 ^ 59 := Magnitude.toUInt64_lt hsamples
  have hfade : (start tone volume rate).fade ≤ chunkMax := Nat.min_le_left ..
  have hsilence : (start tone volume rate).silence ≤ chunkMax := Nat.min_le_left ..
  unfold total
  unfold chunkMax at hfade hsilence
  omega

end Burst

/-! ## On a sink -/

namespace Tone

variable (tone : Tone) (volume : Float32)

theorem script_writes (rate : UInt32) (channels : UInt16) :
    let burst := Burst.start tone volume rate
    let script := tone.script volume rate (widthOf channels)
    script.result = ⟨burst.total, false⟩ ∧
      ∃ writes : List (Array Int16), script.requests = writes.map .write ∧
        writes.flatMap Array.toList = burst.whole.flatMap (List.replicate (widthOf channels)) := by
  intro burst script
  have hlength : burst.upcoming.length = burst.total := burst.upcoming_length
  obtain ⟨hresult, writes, hwrites, hsamples⟩ :=
    Burst.source_fillsUp.supplies.rawScript 1 channels burst.total burst
  rw [hlength, Nat.min_self] at hresult
  rw [List.take_of_length_le (Nat.le_of_eq hlength), scaleSamples_one] at hsamples
  refine ⟨hresult, writes, ?_, ?_⟩
  · rw [← hwrites]
    exact Script.requests_mapSource _ _
  · rw [Burst.start_whole]
    exact hsamples

theorem play_of_neverFails {sink : Sink ω} (hsink : sink.NeverFails) (out : ω) :
    let burst := Burst.start tone volume sink.rate
    ∃ writes : List (Array Int16),
      tone.play sink volume out =
          (.ok ⟨burst.total, false⟩, sink.after (writes.map .write) out) ∧
        writes.flatMap Array.toList = burst.whole.flatMap (List.replicate sink.width) := by
  intro burst
  obtain ⟨hresult, writes, hwrites, hsamples⟩ := tone.script_writes volume sink.rate sink.channels
  refine ⟨writes, ?_, hsamples⟩
  rw [← hresult, ← hwrites]
  exact Outcome.eq_of_grants (tone.play_follows volume sink out) (hsink.grants _ out)

end Tone

namespace Burst

/--
Buffers of any lengths, filled one after the other, get the beginning of the samples that a single
buffer with room for all of them gets.  A fill goes from cell to cell; it writes as many samples as
it has room for and are left, and leaves the other cells alone.  The tone is finished when all have
been written.  The last of them are silent, and a sink that never fails is given all of them, once
for every channel.
-/
theorem fills_of_any_lengths (tone : Tone) (volume : Float32) (rate : UInt32)
    (buffers : List (Array Int16)) (buffer : Vector Int16 room) :
    let burst := start tone volume rate
    let asked := (buffers.map Array.size).sum
    let written := (source.fillAll buffers burst).1
    let now := (source.fillAll buffers burst).2
    let filled := source.fill buffer now
    (∀ cells : Vector Int16 burst.total,
      (source.fill cells burst).claimed = burst.total ∧
        (source.fill cells burst).buffer.toList = burst.whole) ∧
    burst.total ≤ Synth.countMax ∧
    written = burst.whole.take (min asked burst.total) ∧
    (filled.claimed, filled.buffer.toList, filled.source) = now.overwriteCells buffer.toList ∧
    filled.claimed = min room (burst.total - written.length) ∧
    filled.buffer.toList.drop filled.claimed = buffer.toList.drop filled.claimed ∧
    (now.finished = true ↔ written.length = burst.total) ∧
    burst.whole.drop (burst.total - burst.silence) = List.replicate burst.silence 0 ∧
    ∀ {ω : Type} (sink : Sink ω) (out : ω), sink.NeverFails → sink.rate = rate →
      ∃ writes : List (Array Int16),
        tone.play sink volume out =
            (.ok ⟨burst.total, false⟩, sink.after (writes.map .write) out) ∧
          writes.flatMap Array.toList = burst.whole.flatMap (List.replicate sink.width) := by
  intro burst asked written now filled
  have hwhole : burst.whole = burst.upcoming := start_whole tone volume rate
  have hlength : burst.whole.length = burst.total := start_whole_length tone volume rate
  have hwritten : written = burst.whole.take asked :=
    hwhole ▸ (source_fillsUp.fillAll_eq buffers burst).1
  have hnow : now.upcoming = burst.whole.drop asked :=
    hwhole ▸ (source_fillsUp.fillAll_eq buffers burst).2
  have hcount : written.length = min asked burst.total := by
    rw [hwritten, List.length_take, hlength]
  have hleft : now.upcoming.length = burst.total - written.length := by
    rw [hnow, List.length_drop, hlength, hcount]
    omega
  have hlt : burst.total < 2 ^ 60 := start_total_lt tone volume rate
  refine ⟨fun cells => ⟨?_, ?_⟩, Nat.le_trans (Nat.le_of_lt hlt) (by decide), ?_,
    source_fill_eq_overwriteCells buffer now, ?_, ?_, ?_, start_whole_drop tone volume rate, ?_⟩
  · rw [source_fillsUp.claimed, ← hwhole, hlength, Nat.min_self]
  · rw [hwhole]
    exact source_fill_whole rfl cells
  · rw [hwritten, List.take_eq_take_iff, hlength]
    omega
  · rw [← hleft]
    exact source_fillsUp.claimed buffer now
  · exact source_fillsUp.drop_claimed buffer now
  · rw [finished_iff, ← upcoming_length, hleft]
    omega
  · intro ω sink out hsink hrate
    subst hrate
    exact tone.play_of_neverFails volume hsink out

theorem fills_of_any_lengths_across_parts :
    let tone : Tone := ⟨1000, 2⟩
    let burst := start tone 0.5 8000
    let run := source.fillAll [Array.replicate 20 77, #[], Array.replicate 170 77] burst
    let filled := source.fill (Vector.replicate 40 77) run.2
    let sink := Sink.recorder 8000 2
    sink.NeverFails ∧ sink.rate = 8000 ∧ burst.total = 216 ∧
      run.1 = burst.whole.take 190 ∧
      filled.claimed = 26 ∧ filled.buffer.toList.drop 26 = List.replicate 14 77 ∧
      burst.whole.drop 176 = List.replicate 40 0 ∧
      ∃ writes : List (Array Int16),
        tone.play sink 0.5 [] = (.ok ⟨216, false⟩, writes.map .write) ∧
          writes.flatMap Array.toList = burst.whole.flatMap (List.replicate 2) := by
  intro tone burst run filled sink
  have hsink : sink.NeverFails := Script.recorder_neverFails 8000 2
  have htotal : burst.total = 216 := by decide
  have hsilence : burst.silence = 40 := by decide
  obtain ⟨-, -, hwritten, -, hclaimed, hrest, -, hsilent, hplay⟩ :=
    fills_of_any_lengths tone 0.5 8000
      [Array.replicate 20 77, #[], Array.replicate 170 77] (Vector.replicate 40 77)
  obtain ⟨writes, hrun, hsamples⟩ := hplay sink [] hsink rfl
  have hasked : ([Array.replicate 20 77, #[], Array.replicate 170 (77 : Int16)].map
      Array.size).sum = 190 := by simp
  have hfirst : run.1 = burst.whole.take 190 := by
    rw [hwritten, hasked, htotal, Nat.min_eq_left (by decide)]
  have hlength : run.1.length = 190 := by
    rw [hfirst, List.length_take, start_whole_length, htotal, Nat.min_eq_left (by decide)]
  have hroom : filled.claimed = 26 := by
    rw [hclaimed, hlength, htotal]
    rfl
  refine ⟨hsink, rfl, htotal, hfirst, hroom, ?_, ?_, writes, ?_, hsamples⟩
  · rw [← hroom, hrest, hroom]
    simp
  · rw [← hsilence, ← hsilent, htotal, hsilence]
  · rw [hrun, htotal, Script.recorder_after, List.nil_append]

end Burst

end PulseTracker
