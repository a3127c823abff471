import PulseTracker.Proofs.Synth.Chunking
import PulseTracker.Proofs.Synth.Magnitude

/-!
# Filling a buffer

`Synth.fill?` fills the cells of a buffer one after the other, in numbers that have the size of a
machine word.  A sum above that, a difference below zero and a cell outside the buffer all end it
with nothing.  None of them happens: it always ends with the samples of a block in front of what the
buffer held, whatever the cursor, and the cursor is then inside its step.
-/

namespace PulseTracker

/-! ## Words -/

def addWord? (a b : Nat) : Option Nat :=
  if a + b ≤ Synth.countMax then some (a + b) else none

def subWord? (a b : Nat) : Option Nat :=
  if b ≤ a then some (a - b) else none

theorem addWord?_of_le {a b : Nat} (h : a + b ≤ Synth.countMax) : addWord? a b = some (a + b) :=
  if_pos h

theorem addWord?_eq_some {a b c : Nat} (h : addWord? a b = some c) : c = a + b := by
  unfold addWord? at h
  split at h
  · exact (Option.some.inj h).symm
  · cases h

theorem subWord?_of_le {a b : Nat} (h : b ≤ a) : subWord? a b = some (a - b) := if_pos h

/-! ## Cell by cell -/

/-- The gain at a position.  From the end of the first ramp on it takes a sum to find it. -/
def StepFade.gain? (fade : StepFade) (position : Nat) : Option Float32 := do
  if fade.length ≠ 0 ∧ fade.length ≤ position then
    let _ ← addWord? position fade.length
    return fade.gain position
  else return fade.gain position

/-- Write samples of a step to cells of a buffer, the one at position `start + i` to the cell
`first + i`. -/
def fillSpan? (chord : Chord) (voicing : Voicing) (fade : StepFade) (start first : Nat) :
    Nat → Nat → Oscillators → Array Int16 → Option (Oscillators × Array Int16)
  | _, 0, osc, buffer => some (osc, buffer)
  | i, count + 1, osc, buffer => do
      let osc := osc.advance chord voicing.shortNoise
      let position ← addWord? start i
      let gain ← fade.gain? position
      let cell ← addWord? first i
      if h : cell < buffer.size then
        let buffer := buffer.set cell (quantize (osc.mix chord voicing * gain))
        fillSpan? chord voicing fade start first (i + 1) count osc buffer
      else none

theorem fillSpan?_size {chord : Chord} {voicing : Voicing} {fade : StepFade}
    {start first i count : Nat} {osc last : Oscillators} {buffer filled : Array Int16}
    (h : fillSpan? chord voicing fade start first i count osc buffer = some (last, filled)) :
    filled.size = buffer.size := by
  induction count generalizing i osc buffer with
  | zero =>
      cases h
      rfl
  | succ count ih =>
      simp only [fillSpan?, bind, Option.bind_eq_some_iff] at h
      obtain ⟨position, -, gain, -, cell, -, hcell⟩ := h
      split at hcell
      · rw [ih hcell, Array.size_set]
      · cases hcell

namespace Synth

structure Filling where
  written : Nat
  cursor : Cursor
  buffer : Array Int16

section

variable (synth : Synth) (pattern : Pattern) (bpm : UInt32) (voicing : Voicing)

def fillPart? (filling : Filling) : Option Filling := do
  let chord := synth.chordAt pattern filling.cursor.step
  let size := synth.stepLength bpm
  let osc :=
    if filling.cursor.offset = 0 then filling.cursor.oscillators.arm chord
    else filling.cursor.oscillators
  let room ← subWord? filling.buffer.size filling.written
  let count := min room (size - filling.cursor.offset)
  let written ← addWord? filling.written count
  let (osc, buffer) ←
    fillSpan? chord voicing ⟨size⟩ filling.cursor.offset filling.written 0 count osc filling.buffer
  let offset ← addWord? filling.cursor.offset count
  if size ≤ offset then
    let step ← addWord? filling.cursor.step 1
    return ⟨written, ⟨step, 0, osc⟩, buffer⟩
  else return ⟨written, ⟨filling.cursor.step, offset, osc⟩, buffer⟩

/-- A pass fills the buffer or moves to the next step, also if it writes nothing. -/
theorem fillPart?_progress {filling next : Filling}
    (h : synth.fillPart? pattern bpm voicing filling = some next)
    (hroom : filling.written < filling.buffer.size) (hstep : filling.cursor.step < pattern.steps) :
    next.buffer.size - next.written + (pattern.steps - next.cursor.step) <
      filling.buffer.size - filling.written + (pattern.steps - filling.cursor.step) := by
  simp only [fillPart?, bind, Option.bind_eq_some_iff] at h
  obtain ⟨room, hleft, written, hwritten, ⟨osc, buffer⟩, hspan, offset, hoffset, hnext⟩ := h
  have hsize := fillSpan?_size hspan
  cases addWord?_eq_some hwritten
  cases addWord?_eq_some hoffset
  rw [subWord?_of_le (Nat.le_of_lt hroom)] at hleft
  cases hleft
  split at hnext
  · obtain ⟨step, hnew, hnext⟩ := Option.bind_eq_some_iff.mp hnext
    cases addWord?_eq_some hnew
    cases hnext
    dsimp only
    omega
  · cases hnext
    dsimp only
    omega

def fill? (filling : Filling) : Option Filling :=
  if h : filling.written < filling.buffer.size ∧ filling.cursor.step < pattern.steps then
    match hnext : synth.fillPart? pattern bpm voicing filling with
    | none => none
    | some next =>
        have := synth.fillPart?_progress pattern bpm voicing hnext h.1 h.2
        fill? next
  else some filling
termination_by filling.buffer.size - filling.written + (pattern.steps - filling.cursor.step)

theorem fill?_of_fillPart? {filling next : Filling}
    (hroom : filling.written < filling.buffer.size) (hstep : filling.cursor.step < pattern.steps)
    (h : synth.fillPart? pattern bpm voicing filling = some next) :
    synth.fill? pattern bpm voicing filling = synth.fill? pattern bpm voicing next := by
  rw [fill?, dif_pos ⟨hroom, hstep⟩]
  split
  · rename_i hnone
    rw [h] at hnone
    cases hnone
  · rename_i hsome
    rw [h] at hsome
    cases hsome
    rfl

end

end Synth

/-! ## The samples of a block -/

theorem StepFade.gain?_of_le {fade : StepFade} {position : Nat}
    (h : position + fade.length ≤ Synth.countMax) :
    fade.gain? position = some (fade.gain position) := by
  unfold gain?
  split
  · rw [addWord?_of_le h]
    rfl
  · rfl

theorem renderSpan_size (chord : Chord) (voicing : Voicing) (fade : StepFade)
    (position count : Nat) (osc : Oscillators) (out : Array Int16) :
    (renderSpan chord voicing fade position count osc out).2.size = out.size + count := by
  induction count generalizing position osc out with
  | zero => rfl
  | succ count ih =>
      rw [renderSpan, ih, Array.size_push]
      omega

theorem set_append_cons (out : Array Int16) (old new : Int16) (rest : List Int16)
    (h : out.size < (out ++ (old :: rest).toArray).size) :
    (out ++ (old :: rest).toArray).set out.size new h = out.push new ++ rest.toArray := by
  apply Array.toList_inj.mp
  simp

theorem fillSpan?_eq (chord : Chord) (voicing : Voicing) (fade : StepFade)
    {start first i count : Nat} (osc : Oscillators) (out : Array Int16) (rest : List Int16)
    (hout : out.size = first + i) (hcount : count ≤ rest.length)
    (hcells : out.size + rest.length ≤ Synth.countMax)
    (hpositions : 0 < count → start + i + count + fade.length ≤ Synth.countMax) :
    fillSpan? chord voicing fade start first i count osc (out ++ rest.toArray) =
      let span := renderSpan chord voicing fade (start + i) count osc out
      some (span.1, span.2 ++ (rest.drop count).toArray) := by
  induction count generalizing i osc out rest with
  | zero => rfl
  | succ count ih =>
      obtain ⟨old, rest, rfl⟩ :=
        List.exists_cons_of_length_pos (Nat.lt_of_lt_of_le (Nat.succ_pos count) hcount)
      simp only [List.length_cons] at hcount hcells
      have hposition := hpositions (Nat.succ_pos count)
      have hcell : first + i < (out ++ (old :: rest).toArray).size := by
        simp only [Array.size_append, List.size_toArray, List.length_cons]
        omega
      have hpush := ih (i := i + 1) (osc.advance chord voicing.shortNoise)
        (out.push (quantize ((osc.advance chord voicing.shortNoise).mix chord voicing *
          fade.gain (start + i)))) rest (by rw [Array.size_push]; omega) (by omega)
        (by rw [Array.size_push]; omega) (fun _ => by omega)
      simp only [fillSpan?, bind, addWord?_of_le (show start + i ≤ Synth.countMax by omega),
        StepFade.gain?_of_le (show start + i + fade.length ≤ Synth.countMax by omega),
        addWord?_of_le (show first + i ≤ Synth.countMax by omega), Option.bind_some, dif_pos hcell]
      simp only [← hout, set_append_cons, hpush]
      rfl

namespace Synth

variable (synth : Synth) (pattern : Pattern) (bpm : UInt32) (voicing : Voicing)

theorem renderPart_le (room : Nat) (cursor : Cursor) (out : Array Int16) :
    (synth.renderPart pattern bpm voicing room cursor out).1 ≤ room := by
  rw [renderPart_eq]
  exact Nat.min_le_left _ _

theorem renderPart_size (room : Nat) (cursor : Cursor) (out : Array Int16) :
    (synth.renderPart pattern bpm voicing room cursor out).2.2.size =
      out.size + (synth.renderPart pattern bpm voicing room cursor out).1 := by
  simp only [renderPart_eq, renderSpan_size]

theorem renderPart_offset_lt (room : Nat) (cursor : Cursor) (out : Array Int16) :
    (synth.renderPart pattern bpm voicing room cursor out).2.1.offset < synth.stepLength bpm := by
  rw [renderPart_eq]
  exact Cursor.settle_offset_lt (synth.stepLength_pos bpm) _

theorem size_le_renderFrom (room : Nat) (cursor : Cursor) (out : Array Int16) :
    out.size ≤ (synth.renderFrom pattern bpm voicing room cursor out).2.size := by
  simp [renderFrom_eq_ticks]

theorem fillPart?_eq {cursor : Cursor} {out : Array Int16} {rest : List Int16}
    (hstep : cursor.step < pattern.steps) (hsteps : pattern.steps ≤ countMax)
    (hoffset : cursor.offset ≤ countMax) (hcells : out.size + rest.length ≤ countMax) :
    synth.fillPart? pattern bpm voicing ⟨out.size, cursor, out ++ rest.toArray⟩ =
      let part := synth.renderPart pattern bpm voicing rest.length cursor out
      some ⟨out.size + part.1, part.2.1, part.2.2 ++ (rest.drop part.1).toArray⟩ := by
  have hsize := synth.stepLength_le bpm
  have hword : 2 ^ 41 ≤ countMax := by decide
  have hfade : StepFade.length ⟨synth.stepLength bpm⟩ ≤ 128 := Nat.min_le_left _ _
  have hroom : subWord? (out ++ rest.toArray).size out.size = some rest.length := by
    rw [subWord?_of_le (by simp)]
    simp
  obtain ⟨count, hcount⟩ :
      ∃ count, count = min rest.length (synth.stepLength bpm - cursor.offset) := ⟨_, rfl⟩
  have hspan := fillSpan?_eq (synth.chordAt pattern cursor.step) voicing ⟨synth.stepLength bpm⟩
    (if cursor.offset = 0 then cursor.oscillators.arm (synth.chordAt pattern cursor.step)
      else cursor.oscillators) out rest (show out.size = out.size + 0 from rfl)
    (show count ≤ rest.length by omega) hcells
    (show 0 < count → cursor.offset + 0 + count + _ ≤ countMax from fun _ => by omega)
  simp only [fillPart?, bind, hroom, Option.bind_some, ← hcount,
    addWord?_of_le (show out.size + count ≤ countMax by omega), hspan,
    addWord?_of_le (show cursor.offset + count ≤ countMax by omega)]
  rw [renderPart_eq]
  simp only [← hcount, Nat.add_zero, Cursor.settle]
  split
  · simp only [addWord?_of_le (show cursor.step + 1 ≤ countMax by omega), Option.bind_some]
    rfl
  · rfl

theorem fill?_eq (cursor : Cursor) (out : Array Int16) (rest : List Int16)
    (hsteps : pattern.steps ≤ countMax) (hoffset : cursor.offset ≤ countMax)
    (hcells : out.size + rest.length ≤ countMax) :
    synth.fill? pattern bpm voicing ⟨out.size, cursor, out ++ rest.toArray⟩ =
      let block := synth.renderFrom pattern bpm voicing rest.length cursor out
      some ⟨block.2.size, block.1, block.2 ++ (rest.drop (block.2.size - out.size)).toArray⟩ := by
  generalize hmeasure : rest.length + (pattern.steps - cursor.step) = measure
  induction measure using Nat.strongRecOn generalizing cursor out rest with
  | ind measure ih =>
      rw [renderFrom]
      by_cases hgoes : 0 < rest.length ∧ cursor.step < pattern.steps
      · have hroom : out.size < (out ++ rest.toArray).size ∧ cursor.step < pattern.steps := by
          simpa using hgoes
        have hpart := synth.fillPart?_eq pattern bpm voicing hgoes.2 hsteps hoffset hcells
        have hprogress := synth.renderPart_progress pattern bpm voicing rest.length cursor out
          hgoes.1 hgoes.2
        have hle := synth.renderPart_le pattern bpm voicing rest.length cursor out
        have hsize := synth.renderPart_size pattern bpm voicing rest.length cursor out
        have hlt := synth.renderPart_offset_lt pattern bpm voicing rest.length cursor out
        rw [dif_pos hgoes, synth.fill?_of_fillPart? pattern bpm voicing hroom.1 hroom.2 hpart]
        obtain ⟨part, hdef⟩ :
            ∃ part, synth.renderPart pattern bpm voicing rest.length cursor out = part := ⟨_, rfl⟩
        simp only [hdef] at hprogress hle hsize hlt ⊢
        have hstep := synth.stepLength_le_countMax bpm
        have hrest : (rest.drop part.1).length = rest.length - part.1 := List.length_drop
        have hmore := ih _ (by omega) part.2.1 part.2.2 (rest.drop part.1) (by omega) (by omega) rfl
        rw [hrest] at hmore
        have hgrown := synth.size_le_renderFrom pattern bpm voicing (rest.length - part.1)
          part.2.1 part.2.2
        rw [← hsize, hmore]
        generalize synth.renderFrom pattern bpm voicing (rest.length - part.1) part.2.1
          part.2.2 = block at hgrown ⊢
        have hdrop : part.1 + (block.2.size - part.2.2.size) = block.2.size - out.size := by
          omega
        simp only [List.drop_drop, hdrop]
      · have hdone : ¬(out.size < (out ++ rest.toArray).size ∧ cursor.step < pattern.steps) := by
          simpa using hgoes
        rw [fill?, dif_neg hdone, dif_neg hgoes]
        simp

theorem fill?_eq_next (cursor : Cursor) (buffer : Array Int16) (hsteps : pattern.steps ≤ countMax)
    (hoffset : cursor.offset ≤ countMax) (hbuffer : buffer.size ≤ countMax) :
    synth.fill? pattern bpm voicing ⟨0, cursor, buffer⟩ =
      let block := synth.next pattern bpm voicing cursor buffer.size
      some ⟨block.2.size, block.1, block.2 ++ buffer.extract block.2.size buffer.size⟩ := by
  have hfill := synth.fill?_eq pattern bpm voicing cursor #[] buffer.toList hsteps hoffset
    (by simpa using hbuffer)
  simp only [Array.length_toList, Array.size_empty, Nat.sub_zero, Array.empty_append,
    Array.toArray_toList] at hfill
  rw [hfill, next]
  simp only [Option.some.injEq, Filling.mk.injEq, true_and]
  apply Array.toList_inj.mp
  simp [List.extract_eq_take_drop]

end Synth

/-! ## Where a block leaves the cursor -/

/-- Inside a step, and at its first sample if the pattern is over. -/
structure Cursor.Placed (size steps : Nat) (cursor : Cursor) : Prop where
  offset_lt : cursor.offset < size
  step_le : cursor.step ≤ steps
  offset_of_end : cursor.step = steps → cursor.offset = 0

theorem Cursor.settle_placed {size steps : Nat} {cursor : Cursor} (hsize : 0 < size)
    (h : cursor.step < steps) : (cursor.settle size).Placed size steps := by
  unfold settle
  split
  · exact ⟨hsize, h, fun _ => rfl⟩
  · rename_i hinside
    exact ⟨Nat.not_le.mp hinside, Nat.le_of_lt h, fun hend => absurd hend (Nat.ne_of_lt h)⟩

theorem Cursor.Placed.remaining_pos {size steps : Nat} {cursor : Cursor}
    (h : cursor.Placed size steps) (hstep : cursor.step < steps) :
    0 < cursor.remaining size steps := by
  have hoffset := h.offset_lt
  have hsize : size ≤ (steps - cursor.step) * size := Nat.le_mul_of_pos_left size (by omega)
  unfold remaining
  omega

namespace Synth

section

variable (synth : Synth) (pattern : Pattern) (bpm : UInt32) (voicing : Voicing)

theorem tick_placed {cursor : Cursor} (h : cursor.step < pattern.steps) :
    (synth.tick pattern bpm voicing cursor).1.Placed (synth.stepLength bpm) pattern.steps := by
  have hsize := synth.stepLength_pos bpm
  rw [tick_settle synth pattern bpm voicing h]
  by_cases hnext : (cursor.settle (synth.stepLength bpm)).step < pattern.steps
  · rw [tick_of_lt synth pattern bpm voicing hnext (Cursor.settle_offset_lt hsize cursor)]
    exact Cursor.settle_placed hsize hnext
  · rw [tick_of_finished synth pattern bpm voicing (Nat.not_lt.mp hnext)]
    exact Cursor.settle_placed hsize h

theorem ticks_placed (count : Nat) {cursor : Cursor}
    (h : cursor.Placed (synth.stepLength bpm) pattern.steps) :
    (synth.ticks pattern bpm voicing count cursor).1.Placed (synth.stepLength bpm)
      pattern.steps := by
  induction count generalizing cursor with
  | zero => exact h
  | succ count ih =>
      apply ih
      by_cases hstep : cursor.step < pattern.steps
      · exact synth.tick_placed pattern bpm voicing hstep
      · rwa [tick_of_finished synth pattern bpm voicing (Nat.not_lt.mp hstep)]

theorem next_placed {cursor : Cursor} {room : Nat} (hroom : 0 < room)
    (hstep : cursor.step < pattern.steps) :
    (synth.next pattern bpm voicing cursor room).1.Placed (synth.stepLength bpm)
      pattern.steps := by
  obtain ⟨count, rfl⟩ := Nat.exists_eq_succ_of_ne_zero (Nat.ne_of_gt hroom)
  rw [next_eq_ticks]
  exact synth.ticks_placed pattern bpm voicing count (synth.tick_placed pattern bpm voicing hstep)

theorem next_remaining (cursor : Cursor) (room : Nat) :
    (synth.next pattern bpm voicing cursor room).2.size =
        min room (cursor.remaining (synth.stepLength bpm) pattern.steps) ∧
      (synth.next pattern bpm voicing cursor room).1.remaining (synth.stepLength bpm)
          pattern.steps =
        cursor.remaining (synth.stepLength bpm) pattern.steps - room := by
  rw [next_eq_ticks]
  exact synth.ticks_remaining pattern bpm voicing room cursor

theorem next_zero (cursor : Cursor) :
    synth.next pattern bpm voicing cursor 0 = (cursor, #[]) := by
  rw [next_eq_ticks, ticks]

theorem next_of_finished {cursor : Cursor} (h : pattern.steps ≤ cursor.step) (room : Nat) :
    synth.next pattern bpm voicing cursor room = (cursor, #[]) := by
  rw [next_eq_ticks, ticks_of_finished synth pattern bpm voicing h]

end

/-! ## One buffer after the other -/

structure Block where
  bpm : UInt32
  voicing : Voicing
  buffer : Array Int16

def fillAll? (synth : Synth) (pattern : Pattern) (cursor : Cursor) : List Block → Option Cursor
  | [] => some cursor
  | block :: blocks => do
      let filling ← synth.fill? pattern block.bpm block.voicing ⟨0, cursor, block.buffer⟩
      fillAll? synth pattern filling.cursor blocks

structure Ready (pattern : Pattern) (cursor : Cursor) : Prop where
  offset_le : cursor.offset ≤ countMax
  at_end : pattern.steps ≤ cursor.step → cursor.step = pattern.steps ∧ cursor.offset = 0

variable (synth : Synth) {pattern : Pattern} (bpm : UInt32) (voicing : Voicing) {cursor : Cursor}

theorem ready_of_placed (h : cursor.Placed (synth.stepLength bpm) pattern.steps) :
    Ready pattern cursor := by
  constructor
  · exact Nat.le_of_lt (Nat.lt_of_lt_of_le h.offset_lt (synth.stepLength_le_countMax bpm))
  · intro hover
    have hend := Nat.le_antisymm h.step_le hover
    exact ⟨hend, h.offset_of_end hend⟩

theorem Ready.placed (h : Ready pattern cursor) (hover : pattern.steps ≤ cursor.step) :
    cursor.Placed (synth.stepLength bpm) pattern.steps := by
  obtain ⟨hstep, hoffset⟩ := h.at_end hover
  exact ⟨hoffset ▸ synth.stepLength_pos bpm, Nat.le_of_eq hstep, fun _ => hoffset⟩

theorem Ready.next_placed (h : Ready pattern cursor) {room : Nat} (hroom : 0 < room) :
    (synth.next pattern bpm voicing cursor room).1.Placed (synth.stepLength bpm)
      pattern.steps := by
  by_cases hstep : cursor.step < pattern.steps
  · exact Synth.next_placed synth pattern bpm voicing hroom hstep
  · rw [next_of_finished synth pattern bpm voicing (Nat.not_lt.mp hstep)]
    exact h.placed synth bpm (Nat.not_lt.mp hstep)

theorem Ready.next (h : Ready pattern cursor) (room : Nat) :
    Ready pattern (synth.next pattern bpm voicing cursor room).1 := by
  rcases Nat.eq_zero_or_pos room with rfl | hroom
  · rwa [next_zero]
  · exact ready_of_placed synth bpm (h.next_placed synth bpm voicing hroom)

theorem fillAll?_ready (hsteps : pattern.steps ≤ countMax) (blocks : List Block)
    (hblocks : ∀ block ∈ blocks, block.buffer.size ≤ countMax) (h : Ready pattern cursor) :
    ∃ last, synth.fillAll? pattern cursor blocks = some last ∧ Ready pattern last := by
  induction blocks generalizing cursor with
  | nil => exact ⟨cursor, rfl, h⟩
  | cons block blocks ih =>
      obtain ⟨hblock, hblocks⟩ := List.forall_mem_cons.mp hblocks
      rw [fillAll?, fill?_eq_next synth pattern block.bpm block.voicing cursor block.buffer hsteps
        h.offset_le hblock]
      exact ih hblocks (h.next synth block.bpm block.voicing block.buffer.size)

theorem fillAll?_concat (blocks : List Block) (block : Block) :
    synth.fillAll? pattern cursor (blocks ++ [block]) = do
      let before ← synth.fillAll? pattern cursor blocks
      let filling ← synth.fill? pattern block.bpm block.voicing ⟨0, before, block.buffer⟩
      return filling.cursor := by
  induction blocks generalizing cursor with
  | nil => rfl
  | cons first blocks ih =>
      simp only [List.cons_append, fillAll?, bind, Option.bind_assoc]
      congr 1
      funext filling
      exact ih

theorem fillAll?_placed (hsteps : pattern.steps ≤ countMax) (blocks : List Block) (block : Block)
    (hblocks : ∀ block ∈ blocks, block.buffer.size ≤ countMax)
    (hblock : block.buffer.size ≤ countMax) (h : Ready pattern cursor) :
    ∃ last, synth.fillAll? pattern cursor (blocks ++ [block]) = some last ∧
      (0 < block.buffer.size → last.Placed (synth.stepLength block.bpm) pattern.steps) := by
  obtain ⟨before, hbefore, hready⟩ := synth.fillAll?_ready hsteps blocks hblocks h
  rw [fillAll?_concat, hbefore]
  simp only [bind, Option.bind_some]
  rw [fill?_eq_next synth pattern block.bpm block.voicing before block.buffer hsteps
    hready.offset_le hblock]
  exact ⟨_, rfl, hready.next_placed synth block.bpm block.voicing⟩

/--
Any cursor and any buffer: no sum, difference or index goes wrong on the way.  As many cells are
written as the buffer has and samples remain, and the others keep what they held.  That much less
remains behind the block.  The cursor comes to stand inside its step, and a buffer that is not full
means that the pattern is over.  The same holds for buffers that are filled in turn, each at a tempo
of its own: every one leaves the cursor inside a step of that tempo.
-/
theorem fill_from_any_cursor (cursor : Cursor) (buffer : Array Int16)
    (hsteps : pattern.steps ≤ countMax) (hoffset : cursor.offset ≤ countMax)
    (hbuffer : buffer.size ≤ countMax) :
    let size := synth.stepLength bpm
    let count := min buffer.size (cursor.remaining size pattern.steps)
    let block := synth.next pattern bpm voicing cursor buffer.size
    (∃ filled, synth.fill? pattern bpm voicing ⟨0, cursor, buffer⟩ =
        some ⟨count, block.1, filled⟩ ∧
      filled.size = buffer.size ∧
      (∀ cell < count, filled[cell]? = block.2[cell]?) ∧
      (∀ cell, count ≤ cell → filled[cell]? = buffer[cell]?)) ∧
    block.2.size = count ∧
    block.1.remaining size pattern.steps = cursor.remaining size pattern.steps - count ∧
    (cursor.step < pattern.steps → 0 < buffer.size → block.1.Placed size pattern.steps) ∧
    (count < buffer.size → pattern.steps ≤ block.1.step) ∧
    (pattern.steps ≤ cursor.step ∨ buffer.size = 0 → count = 0 ∧ block.1 = cursor) ∧
    ∀ (before : List Block) (last : Block), cursor.step < pattern.steps →
      (∀ block ∈ before, block.buffer.size ≤ countMax) → last.buffer.size ≤ countMax →
      ∃ behind, synth.fillAll? pattern cursor (before ++ [last]) = some behind ∧
        (0 < last.buffer.size → behind.Placed (synth.stepLength last.bpm) pattern.steps) := by
  intro size count block
  obtain ⟨hcount, hless⟩ : block.2.size = count ∧
      block.1.remaining size pattern.steps = cursor.remaining size pattern.steps - buffer.size :=
    synth.next_remaining pattern bpm voicing cursor buffer.size
  have hplaced : cursor.step < pattern.steps → 0 < buffer.size →
      block.1.Placed size pattern.steps :=
    fun hstep hroom => synth.next_placed pattern bpm voicing hroom hstep
  have hover : pattern.steps ≤ cursor.step → block = (cursor, #[]) :=
    fun hover => synth.next_of_finished pattern bpm voicing hover buffer.size
  refine ⟨⟨block.2 ++ buffer.extract block.2.size buffer.size, ?_, ?_, ?_, ?_⟩, hcount, ?_,
    hplaced, ?_, ?_, ?_⟩
  · rw [← hcount]
    exact synth.fill?_eq_next pattern bpm voicing cursor buffer hsteps hoffset hbuffer
  · simp only [Array.size_append, Array.size_extract]
    omega
  · intro cell hcell
    rw [Array.getElem?_append_left (hcount ▸ hcell)]
  · intro cell hcell
    rw [Array.getElem?_append_right (hcount ▸ hcell), Array.getElem?_extract, hcount]
    split
    · rw [Nat.add_sub_cancel' hcell]
    · rw [Array.getElem?_eq_none (by omega)]
  · rw [hless]
    omega
  · intro hshort
    by_contra hstep
    rcases Nat.lt_or_ge cursor.step pattern.steps with hgoes | hend
    · have hpos := (hplaced hgoes (by omega)).remaining_pos (Nat.not_le.mp hstep)
      omega
    · rw [hover hend] at hstep
      exact hstep hend
  · rintro (hend | hempty)
    · exact ⟨by simp [count, Cursor.remaining, hend], congrArg Prod.fst (hover hend)⟩
    · refine ⟨by simp [count, hempty], ?_⟩
      simp only [block, hempty, next_zero]
  · intro before last hstep hbefore hlast
    exact synth.fillAll?_placed hsteps before last hbefore hlast
      ⟨hoffset, fun hend => absurd hend (Nat.not_le.mpr hstep)⟩

theorem fill_from_any_cursor_past_its_step :
    let synth := ofRate 8000
    let pattern : Pattern := ⟨[some 60, some 64], [some 48], [none, some 3], 2⟩
    let voicing : Voicing := ⟨0.5, 0.125, true, true⟩
    let cursor : Cursor := ⟨0, 700, .initial⟩
    let buffer := Array.replicate 700 77
    let block := synth.next pattern 240 voicing cursor buffer.size
    pattern.steps ≤ countMax ∧ cursor.offset ≤ countMax ∧ buffer.size ≤ countMax ∧
      (∃ filled, synth.fill? pattern 240 voicing ⟨0, cursor, buffer⟩ =
          some ⟨500, block.1, filled⟩ ∧
        ∀ cell, 500 ≤ cell → filled[cell]? = buffer[cell]?) ∧
      pattern.steps ≤ block.1.step ∧ block.1.Placed 500 pattern.steps ∧
      ∃ behind, synth.fillAll? pattern cursor
          [⟨120, voicing, Array.replicate 299 77⟩, ⟨240, voicing, #[77]⟩] = some behind ∧
        behind.Placed 500 pattern.steps := by
  intro synth pattern voicing cursor buffer block
  have hsize : synth.stepLength 240 = 500 := by decide
  have hroom : buffer.size = 700 := Array.size_replicate
  have hsteps : pattern.steps ≤ countMax := by decide
  have hoffset : cursor.offset ≤ countMax := by decide
  have hbuffer : buffer.size ≤ countMax := by
    rw [hroom]
    decide
  obtain ⟨⟨filled, hfill, -, -, hkept⟩, -, -, hplaced, hover, -, hrun⟩ :=
    synth.fill_from_any_cursor 240 voicing cursor buffer hsteps hoffset hbuffer
  have hcount : min buffer.size (cursor.remaining (synth.stepLength 240) pattern.steps) = 500 := by
    simp [hsize, hroom, Cursor.remaining, cursor, pattern]
  rw [hcount] at hfill hkept hover
  have hbehind := hrun [⟨120, voicing, Array.replicate 299 77⟩] ⟨240, voicing, #[77]⟩ (by decide)
    (by simp [countMax, UInt64.size]) (by decide)
  rw [hsize] at hplaced hbehind
  obtain ⟨behind, hblocks, hlegal⟩ := hbehind
  exact ⟨hsteps, hoffset, hbuffer, ⟨filled, hfill, hkept⟩, hover (by omega),
    hplaced (by decide) (by omega), behind, hblocks, hlegal (by decide)⟩

end Synth

end PulseTracker
