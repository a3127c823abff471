import Mathlib.Algebra.BigOperators.Group.Finset.Basic
import Mathlib.Algebra.Order.Floor.Div
import PulseTracker.Proofs.Noise.Session
import PulseTracker.Proofs.Synth.Chunking
import PulseTracker.Proofs.Synth.Magnitude

/-!
# Clocks of the noise register

A step with noise clocks the register on its first sample and from there once a
period.  The countdown that does this is carried across blocks and, untouched,
across steps without noise; a count of the samples alone says how often the
register was clocked.
-/

namespace PulseTracker

/-! ## Multiples of a period -/

theorem succ_ceilDiv {period : Nat} (hpos : 0 < period) (offset : Nat) :
    (offset + 1) ⌈/⌉ period = offset / period + 1 := by
  rw [Nat.ceilDiv_eq_add_pred_div, Nat.add_right_comm, Nat.add_sub_cancel,
    Nat.add_div_right offset hpos]

theorem ceilDiv_succ {period : Nat} (hpos : 0 < period) (offset : Nat) :
    (offset + 1) ⌈/⌉ period = offset ⌈/⌉ period + if period ∣ offset then 1 else 0 := by
  cases offset with
  | zero => simp [succ_ceilDiv hpos]
  | succ offset =>
      rw [succ_ceilDiv hpos, succ_ceilDiv hpos, Nat.succ_div]
      omega

theorem mul_ceilDiv_le_iff {period : Nat} (hpos : 0 < period) (offset : Nat) :
    period * (offset ⌈/⌉ period) ≤ offset ↔ period ∣ offset := by
  have hle : offset ≤ period * (offset ⌈/⌉ period) := le_smul_ceilDiv hpos
  constructor
  · intro hge
    exact Dvd.intro _ (Nat.le_antisymm hge hle)
  · rintro ⟨count, rfl⟩
    exact Nat.mul_le_mul_left _ ((ceilDiv_le_iff_le_smul hpos).mpr (Nat.le_refl _))

/-! ## The countdown of one step -/

namespace NoiseVoice

theorem advance_countdown (period : Nat) (short : Bool) (voice : NoiseVoice) :
    (voice.advance period short).countdown =
      if voice.countdown ≤ 1 then (period : Int) else voice.countdown - 1 := by
  unfold advance countdownMin
  dsimp only
  split <;> split <;> dsimp only <;> omega

/-- The countdown runs out at the next multiple of the period, counted from the offset. -/
def Due (period offset : Nat) (voice : NoiseVoice) : Prop :=
  voice.countdown + offset = (period * (offset ⌈/⌉ period) : Nat) + 1

theorem Due.le_one_iff {period offset : Nat} {voice : NoiseVoice} (hpos : 0 < period)
    (h : voice.Due period offset) : voice.countdown ≤ 1 ↔ period ∣ offset := by
  unfold Due at h
  rw [← mul_ceilDiv_le_iff hpos]
  omega

theorem due_advance {period offset : Nat} {voice : NoiseVoice} (hpos : 0 < period) (short : Bool)
    (hclock : voice.countdown ≤ 1 ↔ period ∣ offset)
    (hdue : ¬ period ∣ offset → voice.Due period offset) :
    (voice.advance period short).Due period (offset + 1) := by
  unfold Due
  rw [advance_countdown, ceilDiv_succ hpos]
  by_cases hdvd : period ∣ offset
  · have hmultiple := (mul_ceilDiv_le_iff hpos offset).mpr hdvd
    have hle : offset ≤ period * (offset ⌈/⌉ period) := le_smul_ceilDiv hpos
    rw [if_pos (hclock.mpr hdvd), if_pos hdvd, Nat.mul_succ]
    omega
  · have hcountdown := hdue hdvd
    unfold Due at hcountdown
    rw [if_neg (fun hlow => hdvd (hclock.mp hlow)), if_neg hdvd,
      Nat.add_zero (offset ⌈/⌉ period)]
    omega

end NoiseVoice

def Cursor.Due (chord : Chord) (cursor : Cursor) : Prop :=
  ∀ period, chord.noisePeriod = some period → 0 < cursor.offset →
    cursor.oscillators.noise.Due period cursor.offset

namespace Cursor

theorem Due.clocks_iff {chord : Chord} {cursor : Cursor} (h : cursor.Due chord) {period : Nat}
    (hperiod : chord.noisePeriod = some period) (hpos : 0 < period) :
    cursor.clocks chord = true ↔ period ∣ cursor.offset := by
  rcases Nat.eq_zero_or_pos cursor.offset with hzero | hbegun
  · simp [clocks, hperiod, hzero]
  · simp [clocks, hperiod, Nat.ne_of_gt hbegun, (h period hperiod hbegun).le_one_iff hpos]

theorem Due.sounding {chord : Chord} {cursor : Cursor} (h : cursor.Due chord) {period : Nat}
    (hperiod : chord.noisePeriod = some period) (hpos : 0 < period) (short : Bool) :
    (cursor.sounding chord short).noise.Due period (cursor.offset + 1) := by
  rcases Nat.eq_zero_or_pos cursor.offset with hzero | hbegun
  · -- the step has just begun and arms its countdown
    simp only [Cursor.sounding, hzero, if_true, Oscillators.arm, Oscillators.advance, hperiod,
      Option.isSome_some]
    exact NoiseVoice.due_advance hpos short (by simp) (by simp)
  · have hdue := h period hperiod hbegun
    simp only [Cursor.sounding, Nat.ne_of_gt hbegun, if_false, Oscillators.advance, hperiod]
    exact NoiseVoice.due_advance hpos short (hdue.le_one_iff hpos) (fun _ => hdue)

end Cursor

/-! ## Clocks of a session -/

namespace Synth

section Session

variable (synth : Synth) (pattern : Pattern)

def noisePeriodAt (step : Nat) : Option Nat :=
  (pattern.noiseAt step).map fun pitch => (noisePeriod pitch synth.rate).toNat

def clocksAt (step offset : Nat) : Bool :=
  (synth.noisePeriodAt pattern step).any fun period => decide (period ∣ offset)

def stepClocks (step count : Nat) : Nat :=
  match synth.noisePeriodAt pattern step with
  | some period => count ⌈/⌉ period
  | none => 0

/-- Clocks of the register before an offset of a step, those of the steps before it included. -/
def sessionClocks (bpm : UInt32) (step offset : Nat) : Nat :=
  ∑ before ∈ Finset.range step, synth.stepClocks pattern before (synth.stepLength bpm) +
    synth.stepClocks pattern step offset

/-- No period is cut short. -/
@[simp] theorem chordAt_noisePeriod (step : Nat) :
    (synth.chordAt pattern step).noisePeriod = synth.noisePeriodAt pattern step := by
  simp only [chordAt, noisePeriodAt, Nat.min_eq_right (noisePeriod_le _ synth.rate)]

theorem noisePeriodAt_pos {step period : Nat}
    (h : synth.noisePeriodAt pattern step = some period) : 0 < period := by
  obtain ⟨pitch, -, rfl⟩ := Option.map_eq_some_iff.mp h
  exact noisePeriod_pos pitch synth.rate

@[simp] theorem stepClocks_zero (step : Nat) : synth.stepClocks pattern step 0 = 0 := by
  unfold stepClocks
  split <;> simp

theorem stepClocks_succ (step count : Nat) :
    synth.stepClocks pattern step (count + 1) =
      synth.stepClocks pattern step count + (synth.clocksAt pattern step count).toNat := by
  cases hperiod : synth.noisePeriodAt pattern step with
  | none => simp [stepClocks, clocksAt, hperiod]
  | some period =>
      have hpos := synth.noisePeriodAt_pos pattern hperiod
      simp only [stepClocks, clocksAt, hperiod, ceilDiv_succ hpos, Option.any_some]
      split <;> simp_all

variable (bpm : UInt32)

theorem sessionClocks_succ (step offset : Nat) :
    synth.sessionClocks pattern bpm step (offset + 1) =
      synth.sessionClocks pattern bpm step offset +
        (synth.clocksAt pattern step offset).toNat := by
  simp only [sessionClocks, stepClocks_succ, Nat.add_assoc]

theorem sessionClocks_stepLength (step : Nat) :
    synth.sessionClocks pattern bpm step (synth.stepLength bpm) =
      synth.sessionClocks pattern bpm (step + 1) 0 := by
  simp only [sessionClocks, stepClocks_zero, Finset.sum_range_succ, Nat.add_zero]

variable (voicing : Voicing)

structure Clocked (count : Nat) (cursor : Cursor) : Prop where
  place : cursor.offset + synth.stepLength bpm * cursor.step = count
  due : cursor.Due (synth.chordAt pattern cursor.step)
  register : cursor.oscillators.noise.register =
    (NoiseRegister.clock voicing.shortNoise)^[synth.sessionClocks pattern bpm cursor.step
      cursor.offset] .initial

namespace Clocked

variable {synth pattern bpm voicing} {count : Nat} {cursor : Cursor}

theorem start : Clocked synth pattern bpm voicing 0 .start where
  place := by simp [Cursor.start]
  due := by simp [Cursor.Due, Cursor.start]
  register := by simp [Cursor.start, Oscillators.initial, sessionClocks]

theorem settle (h : Clocked synth pattern bpm voicing count cursor)
    (hoffset : cursor.offset ≤ synth.stepLength bpm) :
    Clocked synth pattern bpm voicing count (cursor.settle (synth.stepLength bpm)) := by
  rcases Nat.lt_or_eq_of_le hoffset with hlt | heq
  · rwa [Cursor.settle_of_lt hlt]
  · rw [Cursor.settle_of_le (Nat.le_of_eq heq.symm)]
    refine ⟨?_, ?_, ?_⟩
    · show 0 + synth.stepLength bpm * (cursor.step + 1) = count
      rw [← h.place, heq, Nat.mul_succ]
      omega
    · intro period _ hbegun
      exact absurd hbegun (Nat.lt_irrefl 0)
    · rw [← sessionClocks_stepLength, ← heq]
      exact h.register

theorem clocks_eq (h : Clocked synth pattern bpm voicing count cursor) :
    cursor.clocks (synth.chordAt pattern cursor.step) =
      synth.clocksAt pattern cursor.step cursor.offset := by
  cases hperiod : synth.noisePeriodAt pattern cursor.step with
  | none => simp [Cursor.clocks, clocksAt, hperiod]
  | some period =>
      have hclocks := h.due.clocks_iff (by rw [chordAt_noisePeriod, hperiod])
        (synth.noisePeriodAt_pos pattern hperiod)
      rw [Bool.eq_iff_iff, hclocks]
      simp [clocksAt, hperiod]

/-- The samples of a session lead from one place to the next, clock by clock. -/
theorem tick (h : Clocked synth pattern bpm voicing count cursor)
    (hstep : cursor.step < pattern.steps) (hoffset : cursor.offset < synth.stepLength bpm) :
    Clocked synth pattern bpm voicing (count + 1)
      (synth.tick pattern bpm voicing cursor).1 := by
  rw [tick_of_lt synth pattern bpm voicing hstep hoffset]
  refine settle ⟨?_, ?_, ?_⟩ hoffset
  · show cursor.offset + 1 + synth.stepLength bpm * cursor.step = count + 1
    rw [← h.place]
    omega
  · intro period hperiod _
    refine h.due.sounding hperiod ?_ voicing.shortNoise
    exact synth.noisePeriodAt_pos pattern ((synth.chordAt_noisePeriod pattern _).symm.trans hperiod)
  · rw [Cursor.sounding_register, h.clocks_eq, sessionClocks_succ, h.register]
    cases synth.clocksAt pattern cursor.step cursor.offset with
    | false => rfl
    | true => exact (Function.iterate_succ_apply' (NoiseRegister.clock _) _ _).symm

end Clocked

theorem ticks_clocked (room : Nat) :
    Clocked synth pattern bpm voicing (synth.ticks pattern bpm voicing room .start).2.length
      (synth.ticks pattern bpm voicing room .start).1 := by
  induction room with
  | zero => exact .start
  | succ room ih =>
      have hstart : Cursor.start.offset < synth.stepLength bpm := synth.stepLength_pos bpm
      have hoffset := synth.ticks_offset_lt pattern bpm voicing room hstart
      rw [ticks_succ]
      generalize synth.ticks pattern bpm voicing room .start = before at ih hoffset ⊢
      by_cases hstep : before.1.step < pattern.steps
      · have hone : (synth.tick pattern bpm voicing before.1).2.length = 1 := by
          rw [tick_of_lt synth pattern bpm voicing hstep hoffset]
          rfl
        simp only [List.length_append, hone]
        exact ih.tick hstep hoffset
      · simp only [tick_of_finished synth pattern bpm voicing (Nat.not_lt.mp hstep),
          List.append_nil]
        exact ih

end Session

/--
The register after any blocks from the start, however they are cut.  It was
clocked as often as the samples so far have passed multiples of the noise
period, counted in each step from its beginning, and the next sample clocks it
exactly when it is such a multiple.
-/
theorem register_of_blocks (synth : Synth) (pattern : Pattern) (bpm : UInt32) (voicing : Voicing)
    (rooms : List Nat) :
    let played := synth.blocks pattern bpm voicing .start rooms
    let count := played.2.size
    let step := count / synth.stepLength bpm
    let offset := count % synth.stepLength bpm
    let register := played.1.oscillators.noise.register
    (played.1.step = step ∧ played.1.offset = offset) ∧
      register = (NoiseRegister.clock voicing.shortNoise)^[
        synth.sessionClocks pattern bpm step offset] .initial ∧
      (synth.next pattern bpm voicing played.1 1).1.oscillators.noise.register =
        if step < pattern.steps ∧ synth.clocksAt pattern step offset
        then register.clock voicing.shortNoise else register := by
  intro played count step offset register
  have hplayed : played = ((synth.ticks pattern bpm voicing rooms.sum .start).1,
      (synth.ticks pattern bpm voicing rooms.sum .start).2.toArray) :=
    synth.blocks_eq_ticks pattern bpm voicing .start rooms
  have hclocked : Clocked synth pattern bpm voicing count played.1 := by
    simpa only [count, hplayed, List.size_toArray] using
      synth.ticks_clocked pattern bpm voicing rooms.sum
  have hinside : played.1.offset < synth.stepLength bpm := by
    rw [hplayed]
    exact synth.ticks_offset_lt pattern bpm voicing _ (synth.stepLength_pos bpm)
  obtain ⟨hstep, hoffset⟩ : step = played.1.step ∧ offset = played.1.offset :=
    (Nat.div_mod_unique (synth.stepLength_pos bpm)).mpr ⟨hclocked.place, hinside⟩
  rw [hstep, hoffset]
  refine ⟨⟨rfl, rfl⟩, hclocked.register, ?_⟩
  rw [next_eq_ticks]
  simp only [ticks, tick_register, clocksNext, Cursor.settle_of_lt hinside, hclocked.clocks_eq,
    Bool.and_eq_true, decide_eq_true_eq]
  rfl

end Synth

end PulseTracker
