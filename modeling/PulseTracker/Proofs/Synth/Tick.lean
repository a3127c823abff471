import PulseTracker.Synth.Block

/-!
# Rendering sample by sample

`Synth.tick` renders a single sample.  A block of any length is that many ticks,
so what holds of one tick carries over to blocks, and cutting a block in two
changes neither its samples nor the cursor behind it.  A cursor may be any value
here, also one that stands past the end of its step.
-/

namespace PulseTracker

/-- A cursor that has come to the end of its step stands at the next one. -/
def Cursor.settle (size : Nat) (cursor : Cursor) : Cursor :=
  if size ≤ cursor.offset then ⟨cursor.step + 1, 0, cursor.oscillators⟩ else cursor

def Cursor.sounding (chord : Chord) (short : Bool) (cursor : Cursor) : Oscillators :=
  (if cursor.offset = 0 then cursor.oscillators.arm chord
    else cursor.oscillators).advance chord short

def Cursor.remaining (size steps : Nat) (cursor : Cursor) : Nat :=
  (steps - cursor.step) * size - min cursor.offset size

namespace Synth

variable (synth : Synth) (pattern : Pattern) (bpm : UInt32) (voicing : Voicing)

def tick (cursor : Cursor) : Cursor × List Int16 :=
  let size := synth.stepLength bpm
  if cursor.step < pattern.steps then
    let here := cursor.settle size
    if here.step < pattern.steps then
      let chord := synth.chordAt pattern here.step
      let osc := here.sounding chord voicing.shortNoise
      (Cursor.settle size ⟨here.step, here.offset + 1, osc⟩,
        [quantize (osc.mix chord voicing * StepFade.gain ⟨size⟩ here.offset)])
    else (here, [])
  else (cursor, [])

def ticks : Nat → Cursor → Cursor × List Int16
  | 0, cursor => (cursor, [])
  | count + 1, cursor =>
      let first := synth.tick pattern bpm voicing cursor
      let rest := ticks count first.1
      (rest.1, first.2 ++ rest.2)

end Synth

/-! ## Settled cursors -/

theorem Cursor.settle_of_lt {size : Nat} {cursor : Cursor} (h : cursor.offset < size) :
    cursor.settle size = cursor := by
  simp [Cursor.settle, Nat.not_le.mpr h]

theorem Cursor.settle_of_le {size : Nat} {cursor : Cursor} (h : size ≤ cursor.offset) :
    cursor.settle size = ⟨cursor.step + 1, 0, cursor.oscillators⟩ := by
  simp [Cursor.settle, h]

theorem Cursor.settle_offset_lt {size : Nat} (hsize : 0 < size) (cursor : Cursor) :
    (cursor.settle size).offset < size := by
  unfold Cursor.settle
  split
  · exact hsize
  · omega

@[simp] theorem Cursor.settle_oscillators (size : Nat) (cursor : Cursor) :
    (cursor.settle size).oscillators = cursor.oscillators := by
  unfold Cursor.settle
  split <;> rfl

theorem Cursor.le_settle_step (size : Nat) (cursor : Cursor) :
    cursor.step ≤ (cursor.settle size).step := by
  unfold Cursor.settle
  split
  · exact Nat.le_succ _
  · exact Nat.le_refl _

theorem Cursor.settle_remaining (size steps : Nat) (cursor : Cursor) :
    (cursor.settle size).remaining size steps = cursor.remaining size steps := by
  unfold Cursor.settle
  split
  case isFalse => rfl
  case isTrue h =>
    simp only [Cursor.remaining, Nat.zero_min, Nat.sub_zero, Nat.min_eq_right h]
    rw [show steps - (cursor.step + 1) = steps - cursor.step - 1 by omega,
      Nat.sub_mul, Nat.one_mul]

theorem Cursor.settle_place {size : Nat} {cursor : Cursor} (h : cursor.offset ≤ size) :
    (cursor.settle size).offset + size * (cursor.settle size).step =
      cursor.offset + size * cursor.step := by
  rcases Nat.lt_or_eq_of_le h with hlt | heq
  · rw [Cursor.settle_of_lt hlt]
  · rw [Cursor.settle_of_le (Nat.le_of_eq heq.symm)]
    show 0 + size * (cursor.step + 1) = cursor.offset + size * cursor.step
    rw [heq, Nat.mul_succ]
    omega

namespace Synth

variable (synth : Synth) (pattern : Pattern) (bpm : UInt32) (voicing : Voicing)

/-! ## One tick -/

theorem tick_of_finished {cursor : Cursor} (h : pattern.steps ≤ cursor.step) :
    synth.tick pattern bpm voicing cursor = (cursor, []) := by
  simp [tick, Nat.not_lt.mpr h]

theorem tick_of_lt {cursor : Cursor} (hstep : cursor.step < pattern.steps)
    (hoffset : cursor.offset < synth.stepLength bpm) :
    synth.tick pattern bpm voicing cursor =
      (Cursor.settle (synth.stepLength bpm) ⟨cursor.step, cursor.offset + 1,
          cursor.sounding (synth.chordAt pattern cursor.step) voicing.shortNoise⟩,
        [quantize ((cursor.sounding (synth.chordAt pattern cursor.step)
            voicing.shortNoise).mix (synth.chordAt pattern cursor.step) voicing *
          StepFade.gain ⟨synth.stepLength bpm⟩ cursor.offset)]) := by
  simp [tick, hstep, Cursor.settle_of_lt hoffset]

theorem tick_settle {cursor : Cursor} (hstep : cursor.step < pattern.steps) :
    synth.tick pattern bpm voicing cursor =
      synth.tick pattern bpm voicing (cursor.settle (synth.stepLength bpm)) := by
  have hlt := Cursor.settle_offset_lt (synth.stepLength_pos bpm) cursor
  by_cases hnext : (cursor.settle (synth.stepLength bpm)).step < pattern.steps
  · rw [tick_of_lt synth pattern bpm voicing hnext hlt]
    simp [tick, hstep, hnext]
  · rw [tick_of_finished synth pattern bpm voicing (Nat.not_lt.mp hnext)]
    simp [tick, hstep, hnext]

theorem tick_remaining (cursor : Cursor) :
    (synth.tick pattern bpm voicing cursor).2.length =
        min 1 (cursor.remaining (synth.stepLength bpm) pattern.steps) ∧
      (synth.tick pattern bpm voicing cursor).1.remaining
          (synth.stepLength bpm) pattern.steps =
        cursor.remaining (synth.stepLength bpm) pattern.steps - 1 := by
  have hsize := synth.stepLength_pos bpm
  -- first the cursors inside their step, then the others through `settle`
  have inside (here : Cursor) (hlt : here.offset < synth.stepLength bpm) :
      (synth.tick pattern bpm voicing here).2.length =
          min 1 (here.remaining (synth.stepLength bpm) pattern.steps) ∧
        (synth.tick pattern bpm voicing here).1.remaining
            (synth.stepLength bpm) pattern.steps =
          here.remaining (synth.stepLength bpm) pattern.steps - 1 := by
    by_cases hstep : here.step < pattern.steps
    · rw [tick_of_lt synth pattern bpm voicing hstep hlt, Cursor.settle_remaining]
      have hpos : synth.stepLength bpm ≤ (pattern.steps - here.step) * synth.stepLength bpm :=
        Nat.le_mul_of_pos_left _ (by omega)
      simp only [Cursor.remaining, List.length_singleton]
      omega
    · rw [tick_of_finished synth pattern bpm voicing (Nat.not_lt.mp hstep)]
      simp [Cursor.remaining, Nat.sub_eq_zero_of_le (Nat.not_lt.mp hstep)]
  by_cases hstep : cursor.step < pattern.steps
  · rw [tick_settle synth pattern bpm voicing hstep,
      ← Cursor.settle_remaining _ _ cursor]
    exact inside _ (Cursor.settle_offset_lt hsize cursor)
  · rw [tick_of_finished synth pattern bpm voicing (Nat.not_lt.mp hstep)]
    simp [Cursor.remaining, Nat.sub_eq_zero_of_le (Nat.not_lt.mp hstep)]

theorem tick_place {cursor : Cursor} (h : cursor.offset < synth.stepLength bpm) :
    (synth.tick pattern bpm voicing cursor).1.offset +
        synth.stepLength bpm * (synth.tick pattern bpm voicing cursor).1.step =
      cursor.offset + synth.stepLength bpm * cursor.step +
        (synth.tick pattern bpm voicing cursor).2.length := by
  by_cases hstep : cursor.step < pattern.steps
  · rw [tick_of_lt synth pattern bpm voicing hstep h, Cursor.settle_place h]
    simp only [List.length_singleton]
    omega
  · rw [tick_of_finished synth pattern bpm voicing (Nat.not_lt.mp hstep)]
    rfl

theorem tick_offset_lt {cursor : Cursor} (h : cursor.offset < synth.stepLength bpm) :
    (synth.tick pattern bpm voicing cursor).1.offset < synth.stepLength bpm := by
  by_cases hstep : cursor.step < pattern.steps
  · rw [tick_of_lt synth pattern bpm voicing hstep h]
    exact Cursor.settle_offset_lt (synth.stepLength_pos bpm) _
  · rwa [tick_of_finished synth pattern bpm voicing (Nat.not_lt.mp hstep)]

/-! ## Many ticks -/

theorem ticks_add (first second : Nat) (cursor : Cursor) :
    synth.ticks pattern bpm voicing (first + second) cursor =
      ((synth.ticks pattern bpm voicing second
          (synth.ticks pattern bpm voicing first cursor).1).1,
        (synth.ticks pattern bpm voicing first cursor).2 ++
          (synth.ticks pattern bpm voicing second
            (synth.ticks pattern bpm voicing first cursor).1).2) := by
  induction first generalizing cursor with
  | zero => simp [ticks]
  | succ first ih =>
      rw [Nat.succ_add]
      simp only [ticks]
      rw [ih]
      simp [List.append_assoc]

theorem ticks_succ (count : Nat) (cursor : Cursor) :
    synth.ticks pattern bpm voicing (count + 1) cursor =
      let before := synth.ticks pattern bpm voicing count cursor
      let last := synth.tick pattern bpm voicing before.1
      (last.1, before.2 ++ last.2) := by
  rw [ticks_add]
  simp [ticks]

theorem ticks_offset_lt (count : Nat) {cursor : Cursor}
    (h : cursor.offset < synth.stepLength bpm) :
    (synth.ticks pattern bpm voicing count cursor).1.offset < synth.stepLength bpm := by
  induction count generalizing cursor with
  | zero => exact h
  | succ count ih => exact ih (synth.tick_offset_lt pattern bpm voicing h)

theorem ticks_place (count : Nat) {cursor : Cursor} (h : cursor.offset < synth.stepLength bpm) :
    (synth.ticks pattern bpm voicing count cursor).1.offset +
        synth.stepLength bpm * (synth.ticks pattern bpm voicing count cursor).1.step =
      cursor.offset + synth.stepLength bpm * cursor.step +
        (synth.ticks pattern bpm voicing count cursor).2.length := by
  induction count generalizing cursor with
  | zero => rfl
  | succ count ih =>
      have hfirst := synth.tick_place pattern bpm voicing h
      have hrest := ih (synth.tick_offset_lt pattern bpm voicing h)
      simp only [ticks, List.length_append]
      omega

theorem ticks_of_finished {cursor : Cursor} (h : pattern.steps ≤ cursor.step) (count : Nat) :
    synth.ticks pattern bpm voicing count cursor = (cursor, []) := by
  induction count with
  | zero => rfl
  | succ count ih =>
      simp only [ticks]
      rw [tick_of_finished synth pattern bpm voicing h, ih]
      rfl

theorem ticks_remaining (count : Nat) (cursor : Cursor) :
    (synth.ticks pattern bpm voicing count cursor).2.length =
        min count (cursor.remaining (synth.stepLength bpm) pattern.steps) ∧
      (synth.ticks pattern bpm voicing count cursor).1.remaining
          (synth.stepLength bpm) pattern.steps =
        cursor.remaining (synth.stepLength bpm) pattern.steps - count := by
  induction count generalizing cursor with
  | zero => simp [ticks]
  | succ count ih =>
      obtain ⟨hlength, hrest⟩ := synth.tick_remaining pattern bpm voicing cursor
      obtain ⟨ihlength, ihrest⟩ := ih (synth.tick pattern bpm voicing cursor).1
      simp only [ticks, List.length_append]
      omega

/-! ## What is still to come -/

def upcoming (cursor : Cursor) : List Int16 :=
  (synth.ticks pattern bpm voicing
    (cursor.remaining (synth.stepLength bpm) pattern.steps) cursor).2

theorem upcoming_length (cursor : Cursor) :
    (synth.upcoming pattern bpm voicing cursor).length =
      cursor.remaining (synth.stepLength bpm) pattern.steps := by
  rw [upcoming, (synth.ticks_remaining pattern bpm voicing _ cursor).1, Nat.min_self]

theorem ticks_eq_take (count : Nat) (cursor : Cursor) :
    (synth.ticks pattern bpm voicing count cursor).2 =
      (synth.upcoming pattern bpm voicing cursor).take count := by
  obtain ⟨hlength, hrest⟩ := synth.ticks_remaining pattern bpm voicing count cursor
  rcases Nat.le_total count (cursor.remaining (synth.stepLength bpm) pattern.steps) with h | h
  · obtain ⟨more, hmore⟩ := Nat.exists_eq_add_of_le h
    rw [upcoming, hmore, ticks_add, List.take_left' (by omega)]
  · have hnothing := (synth.ticks_remaining pattern bpm voicing
      (count - cursor.remaining (synth.stepLength bpm) pattern.steps)
      (synth.ticks pattern bpm voicing
        (cursor.remaining (synth.stepLength bpm) pattern.steps) cursor).1).1
    rw [(synth.ticks_remaining pattern bpm voicing _ cursor).2, Nat.sub_self, Nat.min_zero,
      List.length_eq_zero_iff] at hnothing
    rw [List.take_of_length_le (by rw [upcoming_length]; exact h), upcoming,
      ← Nat.add_sub_cancel' h, ticks_add]
    simp [hnothing]

theorem upcoming_ticks (count : Nat) (cursor : Cursor) :
    synth.upcoming pattern bpm voicing (synth.ticks pattern bpm voicing count cursor).1 =
      (synth.upcoming pattern bpm voicing cursor).drop count := by
  obtain ⟨hlength, hrest⟩ := synth.ticks_remaining pattern bpm voicing count cursor
  rcases Nat.le_total count (cursor.remaining (synth.stepLength bpm) pattern.steps) with h | h
  · obtain ⟨more, hmore⟩ := Nat.exists_eq_add_of_le h
    rw [upcoming, hrest, upcoming, hmore, Nat.add_sub_cancel_left, ticks_add,
      List.drop_left' (by omega)]
  · rw [List.drop_of_length_le (by rw [upcoming_length]; exact h), ← List.length_eq_zero_iff,
      upcoming_length, hrest, Nat.sub_eq_zero_of_le h]

/-! ## Blocks are ticks -/

theorem renderPart_eq (room : Nat) (cursor : Cursor) (out : Array Int16) :
    synth.renderPart pattern bpm voicing room cursor out =
      let chord := synth.chordAt pattern cursor.step
      let count := min room (synth.stepLength bpm - cursor.offset)
      let span := renderSpan chord voicing ⟨synth.stepLength bpm⟩ cursor.offset count
        (if cursor.offset = 0 then cursor.oscillators.arm chord else cursor.oscillators) out
      (count, Cursor.settle (synth.stepLength bpm)
        ⟨cursor.step, cursor.offset + count, span.1⟩, span.2) := by
  unfold renderPart Cursor.settle
  dsimp only
  split <;> simp_all

theorem renderFrom_of_done {room : Nat} {cursor : Cursor} (out : Array Int16)
    (h : room = 0 ∨ pattern.steps ≤ cursor.step) :
    synth.renderFrom pattern bpm voicing room cursor out = (cursor, out) := by
  rw [renderFrom, dif_neg]
  omega

theorem renderFrom_of_lt {room : Nat} {cursor : Cursor} (out : Array Int16)
    (hroom : 0 < room) (hstep : cursor.step < pattern.steps) :
    synth.renderFrom pattern bpm voicing room cursor out =
      let chord := synth.chordAt pattern cursor.step
      let count := min room (synth.stepLength bpm - cursor.offset)
      let span := renderSpan chord voicing ⟨synth.stepLength bpm⟩ cursor.offset count
        (if cursor.offset = 0 then cursor.oscillators.arm chord else cursor.oscillators) out
      synth.renderFrom pattern bpm voicing (room - count)
        (Cursor.settle (synth.stepLength bpm) ⟨cursor.step, cursor.offset + count, span.1⟩)
        span.2 := by
  rw [renderFrom, dif_pos ⟨hroom, hstep⟩]
  simp only [renderPart_eq]

theorem renderFrom_settle {room : Nat} {cursor : Cursor} (out : Array Int16)
    (hroom : 0 < room) (hstep : cursor.step < pattern.steps) :
    synth.renderFrom pattern bpm voicing room cursor out =
      synth.renderFrom pattern bpm voicing room
        (cursor.settle (synth.stepLength bpm)) out := by
  by_cases hoffset : cursor.offset < synth.stepLength bpm
  · rw [Cursor.settle_of_lt hoffset]
  · have hsize := synth.stepLength_pos bpm
    have hempty : synth.stepLength bpm - cursor.offset = 0 := by omega
    have hstarted : cursor.offset ≠ 0 := by omega
    rw [renderFrom_of_lt synth pattern bpm voicing out hroom hstep]
    simp only [hempty, hstarted, Nat.min_zero, renderSpan, Nat.sub_zero, Nat.add_zero, if_false]

/-- A step that was begun is rendered on from where it stands, without arming the noise. -/
private theorem renderFrom_resume {step position : Nat} (room : Nat) (osc : Oscillators)
    (out : Array Int16) (hstep : step < pattern.steps) (hbegun : 0 < position) :
    synth.renderFrom pattern bpm voicing room
        (Cursor.settle (synth.stepLength bpm) ⟨step, position, osc⟩) out =
      let count := min room (synth.stepLength bpm - position)
      let span := renderSpan (synth.chordAt pattern step) voicing ⟨synth.stepLength bpm⟩
        position count osc out
      synth.renderFrom pattern bpm voicing (room - count)
        (Cursor.settle (synth.stepLength bpm) ⟨step, position + count, span.1⟩) span.2 := by
  by_cases hcount : min room (synth.stepLength bpm - position) = 0
  · simp [hcount, renderSpan]
  · have hroom : 0 < room := by omega
    have hinside : position < synth.stepLength bpm := by omega
    rw [Cursor.settle_of_lt (show (Cursor.mk step position osc).offset < _ from hinside),
      renderFrom_of_lt synth pattern bpm voicing out hroom hstep]
    simp only [Nat.ne_of_gt hbegun, if_false]

private theorem renderFrom_succ_of_lt {cursor : Cursor} (room : Nat) (out : Array Int16)
    (hstep : cursor.step < pattern.steps) (hoffset : cursor.offset < synth.stepLength bpm) :
    synth.renderFrom pattern bpm voicing (room + 1) cursor out =
      synth.renderFrom pattern bpm voicing room
        (synth.tick pattern bpm voicing cursor).1
        (out ++ (synth.tick pattern bpm voicing cursor).2.toArray) := by
  have hcount : min (room + 1) (synth.stepLength bpm - cursor.offset) =
      min room (synth.stepLength bpm - (cursor.offset + 1)) + 1 := by omega
  rw [renderFrom_of_lt synth pattern bpm voicing out (Nat.succ_pos room) hstep,
    tick_of_lt synth pattern bpm voicing hstep hoffset,
    renderFrom_resume synth pattern bpm voicing room _ _ hstep (Nat.succ_pos _)]
  simp only [hcount, renderSpan]
  generalize min room (synth.stepLength bpm - (cursor.offset + 1)) = rest
  rw [show room + 1 - (rest + 1) = room - rest by omega,
    show cursor.offset + (rest + 1) = cursor.offset + 1 + rest by omega]
  simp [Cursor.sounding]

theorem renderFrom_succ (room : Nat) (cursor : Cursor) (out : Array Int16) :
    synth.renderFrom pattern bpm voicing (room + 1) cursor out =
      synth.renderFrom pattern bpm voicing room
        (synth.tick pattern bpm voicing cursor).1
        (out ++ (synth.tick pattern bpm voicing cursor).2.toArray) := by
  have finished (here : Cursor) (h : pattern.steps ≤ here.step) :
      synth.renderFrom pattern bpm voicing (room + 1) here out =
        synth.renderFrom pattern bpm voicing room
          (synth.tick pattern bpm voicing here).1
          (out ++ (synth.tick pattern bpm voicing here).2.toArray) := by
    rw [tick_of_finished synth pattern bpm voicing h,
      renderFrom_of_done synth pattern bpm voicing out (.inr h),
      renderFrom_of_done synth pattern bpm voicing _ (.inr h)]
    simp
  by_cases hstep : cursor.step < pattern.steps
  · rw [renderFrom_settle synth pattern bpm voicing out (Nat.succ_pos room) hstep,
      tick_settle synth pattern bpm voicing hstep]
    by_cases hnext : (cursor.settle (synth.stepLength bpm)).step < pattern.steps
    · exact renderFrom_succ_of_lt synth pattern bpm voicing room out hnext
        (Cursor.settle_offset_lt (synth.stepLength_pos bpm) cursor)
    · exact finished _ (Nat.not_lt.mp hnext)
  · exact finished cursor (Nat.not_lt.mp hstep)

theorem renderFrom_eq_ticks (room : Nat) (cursor : Cursor) (out : Array Int16) :
    synth.renderFrom pattern bpm voicing room cursor out =
      ((synth.ticks pattern bpm voicing room cursor).1,
        out ++ (synth.ticks pattern bpm voicing room cursor).2.toArray) := by
  induction room generalizing cursor out with
  | zero => simp [ticks, renderFrom_of_done]
  | succ room ih =>
      rw [renderFrom_succ, ih]
      simp [ticks, Array.append_assoc]

theorem next_eq_ticks (cursor : Cursor) (room : Nat) :
    synth.next pattern bpm voicing cursor room =
      ((synth.ticks pattern bpm voicing room cursor).1,
        (synth.ticks pattern bpm voicing room cursor).2.toArray) := by
  simp [next, renderFrom_eq_ticks]

/-- A block cut in two is still that block, at whatever cursor it begins and wherever the cut is. -/
theorem next_add (cursor : Cursor) (n m : Nat) :
    let first := synth.next pattern bpm voicing cursor n
    let second := synth.next pattern bpm voicing first.1 m
    let whole := synth.next pattern bpm voicing cursor (n + m)
    first.2.size + second.2.size = whole.2.size ∧ first.2 ++ second.2 = whole.2 ∧
      second.1 = whole.1 := by
  intro first second whole
  have hwhole : (second.1, first.2 ++ second.2) = whole := by
    simp only [first, second, whole, next_eq_ticks, ticks_add, List.append_toArray]
  obtain ⟨hcursor, hsamples⟩ := Prod.ext_iff.mp hwhole
  exact ⟨by rw [← hsamples, Array.size_append], hsamples, hcursor⟩

end Synth

end PulseTracker
