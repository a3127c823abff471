import PulseTracker.Proofs.Noise.Clocking

/-!
# The noise voice between two samples

The register, the level and the countdown of the noise change under different conditions: the
register and the level on a clock, the countdown with every sample of a noise step, and none of
them in a step without noise.  They fit each other all the same, wherever the blocks are cut.
-/

namespace PulseTracker

theorem NoiseRegister.level_eq (register : NoiseRegister) :
    register.level = if register.bits.toNat.testBit 0 then 1 else -1 := by
  have hbit : register.bits &&& 1 = 1 ↔ register.bits.toNat.testBit 0 = true := by
    have hone : (1 : UInt16).toNat = 1 := rfl
    rw [← UInt16.toNat_inj, UInt16.toNat_and, hone, Nat.and_one_is_mod, Nat.testBit_zero,
      decide_eq_true_eq]
  simp only [level, hbit]

namespace NoiseVoice

structure Coherent (longest : Nat) (voice : NoiseVoice) : Prop where
  level : voice.level = voice.register.level
  nonneg : 0 ≤ voice.countdown
  le : voice.countdown ≤ longest

namespace Coherent

variable {longest : Nat} {voice : NoiseVoice}

theorem start (longest : Nat) : Oscillators.initial.noise.Coherent longest where
  level := by decide
  nonneg := Int.le_refl 0
  le := Int.natCast_nonneg longest

theorem arm (h : voice.Coherent longest) : ({ voice with countdown := 0 } : NoiseVoice).Coherent
    longest where
  level := h.level
  nonneg := Int.le_refl 0
  le := Int.natCast_nonneg longest

theorem advance (h : voice.Coherent longest) {period : Nat} (hperiod : period ≤ longest)
    (short : Bool) : (voice.advance period short).Coherent longest where
  level := by
    unfold NoiseVoice.advance
    dsimp only
    split
    · rfl
    · exact h.level
  nonneg := by
    rw [advance_countdown]
    split <;> omega
  le := by
    have hle := h.le
    rw [advance_countdown]
    split <;> omega

end Coherent

theorem Due.bounds {period offset : Nat} {voice : NoiseVoice} (h : voice.Due period offset)
    (hpos : 0 < period) (hbegun : 0 < offset) :
    1 ≤ voice.countdown ∧ voice.countdown ≤ period := by
  obtain ⟨before, rfl⟩ := Nat.exists_eq_add_one_of_ne_zero (Nat.ne_of_gt hbegun)
  have hdue : voice.countdown + (before + 1 : Nat) =
      (period * (before / period + 1) : Nat) + 1 := by
    rw [← succ_ceilDiv hpos]
    exact h
  have hquotient : period * (before / period) + before % period = before :=
    Nat.div_add_mod before period
  have hrest : before % period < period := Nat.mod_lt before hpos
  rw [Nat.mul_succ] at hdue
  omega

end NoiseVoice

theorem Cursor.sounding_coherent {chord : Chord} {cursor : Cursor} {longest : Nat}
    (h : cursor.oscillators.noise.Coherent longest)
    (hlongest : ∀ period, chord.noisePeriod = some period → period ≤ longest) (short : Bool) :
    (cursor.sounding chord short).noise.Coherent longest := by
  cases hperiod : chord.noisePeriod with
  | none => simpa [Cursor.sounding, Oscillators.arm, Oscillators.advance, hperiod] using h
  | some period =>
      have hle := hlongest period hperiod
      by_cases hoffset : cursor.offset = 0
      · simp only [Cursor.sounding, hoffset, if_true, Oscillators.arm, Oscillators.advance,
          hperiod, Option.isSome_some]
        exact h.arm.advance hle short
      · simp only [Cursor.sounding, hoffset, if_false, Oscillators.advance, hperiod]
        exact h.advance hle short

namespace Synth

section Ticks

variable (synth : Synth) (pattern : Pattern) (bpm : UInt32) (voicing : Voicing)

def noisePeriodMax : Nat :=
  (Finset.range pattern.steps).sup fun step => (synth.noisePeriodAt pattern step).getD 0

theorem noisePeriodAt_le_max {step period : Nat} (hstep : step < pattern.steps)
    (h : synth.noisePeriodAt pattern step = some period) :
    period ≤ synth.noisePeriodMax pattern := by
  have hle : (synth.noisePeriodAt pattern step).getD 0 ≤ synth.noisePeriodMax pattern :=
    Finset.le_sup (f := fun step => (synth.noisePeriodAt pattern step).getD 0)
      (Finset.mem_range.mpr hstep)
  rwa [h, Option.getD_some] at hle

theorem tick_coherent {cursor : Cursor}
    (h : cursor.oscillators.noise.Coherent (synth.noisePeriodMax pattern)) :
    (synth.tick pattern bpm voicing cursor).1.oscillators.noise.Coherent
      (synth.noisePeriodMax pattern) := by
  have hhere : (cursor.settle (synth.stepLength bpm)).oscillators.noise.Coherent
      (synth.noisePeriodMax pattern) := by rwa [Cursor.settle_oscillators]
  unfold tick
  dsimp only
  split
  · split
    · rename_i hstep
      rw [Cursor.settle_oscillators]
      refine Cursor.sounding_coherent hhere (fun period hperiod => ?_) voicing.shortNoise
      rw [chordAt_noisePeriod] at hperiod
      exact synth.noisePeriodAt_le_max pattern hstep hperiod
    · exact hhere
  · exact h

theorem ticks_coherent (count : Nat) {cursor : Cursor}
    (h : cursor.oscillators.noise.Coherent (synth.noisePeriodMax pattern)) :
    (synth.ticks pattern bpm voicing count cursor).1.oscillators.noise.Coherent
      (synth.noisePeriodMax pattern) := by
  induction count generalizing cursor with
  | zero => exact h
  | succ count ih => exact ih (synth.tick_coherent pattern bpm voicing h)

/-- In one mode the register never comes to the zeros that it could not leave. -/
theorem ticks_running (count : Nat) :
    (synth.ticks pattern bpm voicing count .start).1.oscillators.noise.register.Running := by
  have hinitial : Cursor.start.oscillators.noise.register.Running := by decide
  rw [ticks_register, NoiseRegister.clocks_running_iff hinitial]
  exact NoiseRegister.initial_not_stalls voicing.shortNoise
    fun _ hmode => List.eq_of_mem_replicate hmode

end Ticks

/--
The noise after any blocks from the start.  The register has fifteen bits that are not all zero,
the level is its lowest bit, and the countdown is at most the longest period of the pattern's
noise; inside a noise step it is at least one and at most the period of that step.
-/
theorem noise_of_blocks_coherent (synth : Synth) (pattern : Pattern) (bpm : UInt32)
    (voicing : Voicing) (rooms : List Nat) :
    let cursor := (synth.blocks pattern bpm voicing .start rooms).1
    let noise := cursor.oscillators.noise
    (1 ≤ noise.register.bits ∧ noise.register.bits ≤ 0x7FFF) ∧
      noise.level = (if noise.register.bits.toNat.testBit 0 then 1 else -1) ∧
      (0 ≤ noise.countdown ∧ noise.countdown ≤ synth.noisePeriodMax pattern) ∧
      ∀ period, synth.noisePeriodAt pattern cursor.step = some period → 0 < cursor.offset →
        1 ≤ noise.countdown ∧ noise.countdown ≤ period := by
  intro cursor noise
  have hcursor : cursor = (synth.ticks pattern bpm voicing rooms.sum .start).1 :=
    congrArg Prod.fst (synth.blocks_eq_ticks pattern bpm voicing .start rooms)
  have hrunning : noise.register.Running := by
    simp only [noise, hcursor]
    exact synth.ticks_running pattern bpm voicing rooms.sum
  have hcoherent : noise.Coherent (synth.noisePeriodMax pattern) := by
    simp only [noise, hcursor]
    exact synth.ticks_coherent pattern bpm voicing rooms.sum (.start _)
  have hdue : cursor.Due (synth.chordAt pattern cursor.step) := by
    rw [hcursor]
    exact (synth.ticks_clocked pattern bpm voicing rooms.sum).due
  refine ⟨hrunning, ?_, ⟨hcoherent.nonneg, hcoherent.le⟩, fun period hperiod hbegun => ?_⟩
  · rw [hcoherent.level, NoiseRegister.level_eq]
  · have hsounding := hdue period (by rw [chordAt_noisePeriod, hperiod]) hbegun
    exact hsounding.bounds (synth.noisePeriodAt_pos pattern hperiod) hbegun

end Synth

end PulseTracker
