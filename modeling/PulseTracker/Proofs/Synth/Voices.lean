import PulseTracker.Proofs.Synth.Chunking

/-!
# Voices that do not hear each other

All voices are carried in one `Oscillators` value and advanced by one loop.  Nothing goes from one
of them to another: the state of a voice after any blocks depends on its own list alone, for the
noise on its mode as well, and the place in the pattern depends on none of the lists.
-/

namespace PulseTracker

namespace Oscillators

/-- A sample of one chord or of the other moves on alike what is seen of the oscillators, whatever
is not seen of them. -/
structure MovesAlike (view : Oscillators → α) (chord other : Chord) (short short' : Bool) :
    Prop where
  arm : ∀ osc osc', view osc = view osc' → view (osc.arm chord) = view (osc'.arm other)
  advance : ∀ osc osc', view osc = view osc' →
    view (osc.advance chord short) = view (osc'.advance other short')

variable {chord other : Chord} {short short' : Bool}

@[simp] theorem arm_leadPhase (chord : Chord) (osc : Oscillators) :
    (osc.arm chord).leadPhase = osc.leadPhase := by
  unfold arm
  split <;> rfl

@[simp] theorem arm_harmonyPhase (chord : Chord) (osc : Oscillators) :
    (osc.arm chord).harmonyPhase = osc.harmonyPhase := by
  unfold arm
  split <;> rfl

theorem arm_noise (chord : Chord) (osc : Oscillators) :
    (osc.arm chord).noise =
      if chord.noisePeriod.isSome then { osc.noise with countdown := 0 } else osc.noise := by
  unfold arm
  split <;> rfl

theorem movesAlike_unseen (chord other : Chord) (short short' : Bool) :
    MovesAlike (fun _ => ()) chord other short short' where
  arm _ _ _ := rfl
  advance _ _ _ := rfl

theorem movesAlike_leadPhase (h : chord.leadIncrement = other.leadIncrement) :
    MovesAlike leadPhase chord other short short' where
  arm osc osc' hview := by rw [arm_leadPhase, arm_leadPhase, hview]
  advance osc osc' hview := by simp only [advance, h, hview]

theorem movesAlike_harmonyPhase (h : chord.harmonyIncrement = other.harmonyIncrement) :
    MovesAlike harmonyPhase chord other short short' where
  arm osc osc' hview := by rw [arm_harmonyPhase, arm_harmonyPhase, hview]
  advance osc osc' hview := by simp only [advance, h, hview]

theorem movesAlike_noise (h : chord.noisePeriod = other.noisePeriod) (hshort : short = short') :
    MovesAlike noise chord other short short' where
  arm osc osc' hview := by rw [arm_noise, arm_noise, h, hview]
  advance osc osc' hview := by simp only [advance, h, hshort, hview]

end Oscillators

namespace Cursor

structure Abreast (view : Oscillators → α) (first second : Cursor) : Prop where
  step : first.step = second.step
  offset : first.offset = second.offset
  seen : view first.oscillators = view second.oscillators

variable {view : Oscillators → α} {first second : Cursor}

theorem Abreast.settle (h : Abreast view first second) (size : Nat) :
    Abreast view (first.settle size) (second.settle size) := by
  unfold Cursor.settle
  rw [← h.offset]
  split
  · exact ⟨congrArg (· + 1) h.step, rfl, h.seen⟩
  · exact h

theorem Abreast.sounding (h : Abreast view first second) {chord other : Chord}
    {short short' : Bool} (hmoves : Oscillators.MovesAlike view chord other short short') :
    view (first.sounding chord short) = view (second.sounding other short') := by
  unfold Cursor.sounding
  rw [← h.offset]
  apply hmoves.advance
  split
  · exact hmoves.arm _ _ h.seen
  · exact h.seen

end Cursor

namespace Synth

section Abreast

variable (synth : Synth) (bpm : UInt32) {p q : Pattern} {voicing other : Voicing}
  {view : Oscillators → α}

theorem abreast_tick (hsteps : p.steps = q.steps)
    (hmoves : ∀ step < p.steps, Oscillators.MovesAlike view (synth.chordAt p step)
      (synth.chordAt q step) voicing.shortNoise other.shortNoise)
    {first second : Cursor} (h : first.Abreast view second) :
    (synth.tick p bpm voicing first).1.Abreast view (synth.tick q bpm other second).1 := by
  have hhere := h.settle (synth.stepLength bpm)
  unfold tick
  dsimp only
  rw [← h.step, ← hhere.step, ← hsteps]
  split
  · split
    · rename_i hstep
      apply Cursor.Abreast.settle
      refine ⟨rfl, congrArg (· + 1) hhere.offset, ?_⟩
      exact hhere.sounding (hmoves _ hstep)
    · exact hhere
  · exact h

theorem abreast_ticks (hsteps : p.steps = q.steps)
    (hmoves : ∀ step < p.steps, Oscillators.MovesAlike view (synth.chordAt p step)
      (synth.chordAt q step) voicing.shortNoise other.shortNoise)
    (count : Nat) {first second : Cursor} (h : first.Abreast view second) :
    (synth.ticks p bpm voicing count first).1.Abreast view
      (synth.ticks q bpm other count second).1 := by
  induction count generalizing first second with
  | zero => exact h
  | succ count ih => exact ih (synth.abreast_tick bpm hsteps hmoves h)

theorem abreast_blocks (hsteps : p.steps = q.steps) (rooms : List Nat)
    (hmoves : ∀ step < p.steps, Oscillators.MovesAlike view (synth.chordAt p step)
      (synth.chordAt q step) voicing.shortNoise other.shortNoise) :
    (synth.blocks p bpm voicing .start rooms).1.Abreast view
      (synth.blocks q bpm other .start rooms).1 := by
  rw [blocks_eq_ticks, blocks_eq_ticks]
  exact synth.abreast_ticks bpm hsteps hmoves rooms.sum ⟨rfl, rfl, rfl⟩

end Abreast

/--
Two sessions with one tempo, the same number of steps and the same blocks are always in the same
place.  A voice whose entries are the same in both is also in the same state, whatever the other
voices, the duties and the sine are; for the noise its mode has to be the same too.
-/
theorem voices_are_independent (synth : Synth) (bpm : UInt32) (p q : Pattern)
    (voicing other : Voicing) (hsteps : p.steps = q.steps) (rooms : List Nat) :
    let first := (synth.blocks p bpm voicing .start rooms).1
    let second := (synth.blocks q bpm other .start rooms).1
    (first.step = second.step ∧ first.offset = second.offset) ∧
      ((∀ step < p.steps, p.leadAt step = q.leadAt step) →
        first.oscillators.leadPhase = second.oscillators.leadPhase) ∧
      ((∀ step < p.steps, p.harmonyAt step = q.harmonyAt step) →
        first.oscillators.harmonyPhase = second.oscillators.harmonyPhase) ∧
      ((∀ step < p.steps, p.noiseAt step = q.noiseAt step) →
        voicing.shortNoise = other.shortNoise →
        first.oscillators.noise = second.oscillators.noise) := by
  intro first second
  have hplace : first.Abreast (fun _ => ()) second :=
    synth.abreast_blocks bpm hsteps rooms fun _ _ => Oscillators.movesAlike_unseen _ _ _ _
  refine ⟨⟨hplace.step, hplace.offset⟩, fun hlead => ?_, fun hharmony => ?_,
    fun hnoise hshort => ?_⟩
  · refine (synth.abreast_blocks bpm hsteps rooms fun step hstep => ?_).seen
    exact Oscillators.movesAlike_leadPhase (congrArg (Option.map _) (hlead step hstep))
  · refine (synth.abreast_blocks bpm hsteps rooms fun step hstep => ?_).seen
    exact Oscillators.movesAlike_harmonyPhase (congrArg (Option.map _) (hharmony step hstep))
  · refine (synth.abreast_blocks bpm hsteps rooms fun step hstep => ?_).seen
    exact Oscillators.movesAlike_noise (congrArg (Option.map _) (hnoise step hstep)) hshort

theorem voices_are_independent_of_a_harmony :
    let synth := ofRate 8000
    let p : Pattern := ⟨[some 60, some 64], [some 67, none], [some 0], 2⟩
    let q : Pattern := ⟨[some 60, some 64, some 72], [], [some 0, none], 2⟩
    let voicing : Voicing := ⟨0.5, 0.125, true, true⟩
    let other : Voicing := ⟨0.25, 0.75, true, false⟩
    let first := (synth.blocks p 140 voicing .start [3, 0, 700]).1
    let second := (synth.blocks q 140 other .start [3, 0, 700]).1
    p.steps = q.steps ∧
      (∀ step < p.steps, p.leadAt step = q.leadAt step) ∧
      (∀ step < p.steps, p.noiseAt step = q.noiseAt step) ∧
      voicing.shortNoise = other.shortNoise ∧
      (first.step = second.step ∧ first.offset = second.offset) ∧
      first.oscillators.leadPhase = second.oscillators.leadPhase ∧
      first.oscillators.noise = second.oscillators.noise := by
  intro synth p q voicing other first second
  have hlead : ∀ step < p.steps, p.leadAt step = q.leadAt step := by decide
  have hnoise : ∀ step < p.steps, p.noiseAt step = q.noiseAt step := by decide
  obtain ⟨hplace, hleads, -, hnoises⟩ :=
    voices_are_independent synth 140 p q voicing other rfl [3, 0, 700]
  exact ⟨rfl, hlead, hnoise, rfl, hplace, hleads hlead, hnoises hnoise rfl⟩

end Synth

end PulseTracker
