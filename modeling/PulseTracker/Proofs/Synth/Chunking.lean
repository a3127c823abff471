import Mathlib.Algebra.GroupWithZero.Nat
import PulseTracker.Proofs.Synth.Tick
import PulseTracker.Synth.Render

/-!
# Blocks against the whole render

A pattern that is rendered in blocks sounds like the same pattern rendered at
once, wherever the blocks are cut: across steps, inside them, or with empty
blocks in between.  Both walks are compared with a run of ticks.
-/

namespace PulseTracker.Synth

variable (synth : Synth) (pattern : Pattern) (bpm : UInt32) (voicing : Voicing)

def blocks (cursor : Cursor) : List Nat → Cursor × Array Int16
  | [] => (cursor, #[])
  | room :: rooms =>
      let first := synth.next pattern bpm voicing cursor room
      let rest := blocks first.1 rooms
      (rest.1, first.2 ++ rest.2)

theorem blocks_eq_ticks (cursor : Cursor) (rooms : List Nat) :
    synth.blocks pattern bpm voicing cursor rooms =
      ((synth.ticks pattern bpm voicing rooms.sum cursor).1,
        (synth.ticks pattern bpm voicing rooms.sum cursor).2.toArray) := by
  induction rooms generalizing cursor with
  | nil => rfl
  | cons room rooms ih =>
      simp only [blocks, List.sum_cons]
      rw [ih, next_eq_ticks, ticks_add]
      simp

theorem renderFrom_steps {step count : Nat} (osc : Oscillators) (out : Array Int16)
    (hsteps : step + count = pattern.steps) :
    ∃ last, synth.renderFrom pattern bpm voicing (synth.stepLength bpm * count)
        ⟨step, 0, osc⟩ out =
      (⟨pattern.steps, 0, last⟩,
        synth.renderSteps pattern bpm voicing step count osc out) := by
  induction count generalizing step osc out with
  | zero =>
      refine ⟨osc, ?_⟩
      rw [renderFrom_of_done synth pattern bpm voicing out (.inl (Nat.mul_zero _))]
      simp [renderSteps, ← hsteps]
  | succ count ih =>
      have hsize := synth.stepLength_pos bpm
      have hroom : synth.stepLength bpm * (count + 1) =
          synth.stepLength bpm * count + synth.stepLength bpm := Nat.mul_succ _ _
      have hcount : min (synth.stepLength bpm * (count + 1)) (synth.stepLength bpm - 0) =
          synth.stepLength bpm := by omega
      rw [renderFrom_of_lt synth pattern bpm voicing out (by omega)
        (show step < pattern.steps by omega)]
      simp only [hcount, renderSteps]
      rw [hroom, Nat.add_sub_cancel, Cursor.settle_of_le (by simp)]
      exact ih _ _ (show step + 1 + count = pattern.steps by omega)

theorem ticks_eq_render :
    (synth.ticks pattern bpm voicing (synth.stepLength bpm * pattern.steps) .start).2.toArray =
        synth.render pattern bpm voicing ∧
      (synth.ticks pattern bpm voicing
        (synth.stepLength bpm * pattern.steps) .start).1.step = pattern.steps := by
  obtain ⟨last, hrender⟩ := synth.renderFrom_steps pattern bpm voicing .initial #[]
    (Nat.zero_add pattern.steps)
  rw [renderFrom_eq_ticks] at hrender
  simp only [Prod.mk.injEq, Array.empty_append] at hrender
  exact ⟨hrender.2, by rw [Cursor.start, hrender.1]⟩

theorem start_remaining (size steps : Nat) :
    Cursor.start.remaining size steps = size * steps := by
  simp [Cursor.remaining, Cursor.start, Nat.mul_comm]

theorem upcoming_start :
    synth.upcoming pattern bpm voicing .start =
      (synth.render pattern bpm voicing).toList := by
  rw [upcoming, start_remaining, ← (synth.ticks_eq_render pattern bpm voicing).1]

theorem render_size :
    (synth.render pattern bpm voicing).size = synth.stepLength bpm * pattern.steps := by
  rw [← Array.length_toList, ← upcoming_start, upcoming_length, start_remaining]

/-- Ticks from the start are the beginning of the whole render. -/
theorem ticks_eq_extract (count : Nat) :
    (synth.ticks pattern bpm voicing count .start).2.toArray =
      (synth.render pattern bpm voicing).extract 0 count := by
  apply Array.toList_inj.mp
  rw [ticks_eq_take, upcoming_start, Array.toList_extract, List.extract_eq_take_drop]
  rfl

theorem ticks_finished_iff (count : Nat) :
    (synth.ticks pattern bpm voicing count .start).1.finished pattern = true ↔
      synth.stepLength bpm * pattern.steps ≤ count := by
  have hremaining := (synth.ticks_remaining pattern bpm voicing count .start).2
  rw [start_remaining] at hremaining
  simp only [Cursor.finished, decide_eq_true_eq]
  constructor
  · intro hfinished
    have hnone : pattern.steps -
        (synth.ticks pattern bpm voicing count .start).1.step = 0 := by omega
    simp only [Cursor.remaining, hnone, Nat.zero_mul, Nat.zero_sub] at hremaining
    omega
  · intro hcount
    obtain ⟨more, rfl⟩ := Nat.exists_eq_add_of_le hcount
    have hfinished := (synth.ticks_eq_render pattern bpm voicing).2
    rw [ticks_add, ticks_of_finished synth pattern bpm voicing (Nat.le_of_eq hfinished.symm)]
    exact Nat.le_of_eq hfinished.symm

theorem stepLength_le_countMax : synth.stepLength bpm ≤ countMax :=
  Nat.max_le.mpr ⟨by decide, nearestWhole_le_countMax _⟩

theorem patternLength_eq (hfit : synth.stepLength bpm * pattern.steps ≤ countMax) :
    synth.patternLength pattern bpm = synth.stepLength bpm * pattern.steps :=
  Nat.min_eq_right hfit

/--
Blocks from the start give the beginning of the whole render, as long as they
have room for.  They give all of it, and the cursor is finished, exactly when
there is room for all of it.
-/
theorem blocks_eq_render_prefix (rooms : List Nat)
    (hfit : synth.stepLength bpm * pattern.steps ≤ countMax) :
    (synth.render pattern bpm voicing).size = synth.patternLength pattern bpm ∧
      (synth.blocks pattern bpm voicing .start rooms).2 =
        (synth.render pattern bpm voicing).extract 0
          (min rooms.sum (synth.patternLength pattern bpm)) ∧
      ((synth.blocks pattern bpm voicing .start rooms).2 = synth.render pattern bpm voicing ↔
        synth.patternLength pattern bpm ≤ rooms.sum) ∧
      ((synth.blocks pattern bpm voicing .start rooms).1.finished pattern = true ↔
        synth.patternLength pattern bpm ≤ rooms.sum) := by
  have hsize := synth.render_size pattern bpm voicing
  rw [patternLength_eq synth pattern bpm hfit, blocks_eq_ticks, ← hsize]
  refine ⟨rfl, ?_, ?_, ?_⟩
  · rw [ticks_eq_extract, Array.extract_eq_extract_right]
    omega
  · rw [ticks_eq_extract]
    constructor
    · exact Array.le_of_extract_eq_self
    · exact Array.extract_eq_self_of_le
  · rw [ticks_finished_iff, hsize]

theorem blocks_eq_render_prefix_one_step :
    let synth := ofRate 8000
    let pattern : Pattern := ⟨[some 60], [some 67, none], [some 0], 1⟩
    let voicing : Voicing := ⟨0.5, 0.125, true, true⟩
    let rooms := [3, 0, 700]
    synth.stepLength 120 * pattern.steps ≤ countMax ∧
      (synth.render pattern 120 voicing).size = synth.patternLength pattern 120 ∧
      (synth.blocks pattern 120 voicing .start rooms).2 =
        (synth.render pattern 120 voicing).extract 0
          (min rooms.sum (synth.patternLength pattern 120)) ∧
      ((synth.blocks pattern 120 voicing .start rooms).2 = synth.render pattern 120 voicing ↔
        synth.patternLength pattern 120 ≤ rooms.sum) ∧
      ((synth.blocks pattern 120 voicing .start rooms).1.finished pattern = true ↔
        synth.patternLength pattern 120 ≤ rooms.sum) := by
  intro synth pattern voicing rooms
  have hfit : synth.stepLength 120 * pattern.steps ≤ countMax := by
    simpa [pattern] using synth.stepLength_le_countMax 120
  exact ⟨hfit, blocks_eq_render_prefix synth pattern 120 voicing rooms hfit⟩

end PulseTracker.Synth
