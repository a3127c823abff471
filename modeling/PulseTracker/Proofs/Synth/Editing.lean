import PulseTracker.Proofs.Synth.Chunking

/-!
# Editing a pattern while it plays

A pattern can be exchanged for another one at any moment.  If the new one has the
steps that were begun by then, and the same entries in them, then what was heard
before the exchange and what is heard after it are one performance of the new
pattern: nothing else of the old one is left in the cursor.
-/

namespace PulseTracker

structure Pattern.AgreeAt (p q : Pattern) (step : Nat) : Prop where
  lead : p.leadAt step = q.leadAt step
  harmony : p.harmonyAt step = q.harmonyAt step
  noise : p.noiseAt step = q.noiseAt step

def Cursor.Begun (cursor : Cursor) (step : Nat) : Prop :=
  step < cursor.step ∨ (step = cursor.step ∧ 0 < cursor.offset)

/-- An exchange of `p` for `q` that leaves alone what was begun. -/
structure Cursor.Allows (cursor : Cursor) (p q : Pattern) : Prop where
  reached : cursor.step ≤ q.steps
  inside : 0 < cursor.offset → cursor.step < q.steps
  agree : ∀ step, cursor.Begun step → p.AgreeAt q step

/-- One sample earlier the exchange was allowed as well, and it keeps the step of that sample. -/
theorem Cursor.Allows.back {size : Nat} {cursor : Cursor} {osc : Oscillators} {p q : Pattern}
    (h : (Cursor.settle size ⟨cursor.step, cursor.offset + 1, osc⟩).Allows p q) :
    cursor.Allows p q ∧ cursor.step < q.steps ∧ p.AgreeAt q cursor.step := by
  have hbegun : ∀ step, step ≤ cursor.step →
      (Cursor.settle size ⟨cursor.step, cursor.offset + 1, osc⟩).Begun step := by
    intro step hle
    unfold Cursor.settle Cursor.Begun
    split
    · exact Or.inl (Nat.lt_succ_of_le hle)
    · rcases Nat.lt_or_eq_of_le hle with hlt | heq
      · exact Or.inl hlt
      · exact Or.inr ⟨heq, Nat.succ_pos _⟩
  have hstep : cursor.step < q.steps := by
    have hreached := h.reached
    have hinside := h.inside
    unfold Cursor.settle at hreached hinside
    split at hreached
    · exact hreached
    · rename_i hwithin
      rw [if_neg hwithin] at hinside
      exact hinside (Nat.succ_pos _)
  refine ⟨⟨Nat.le_of_lt hstep, fun _ => hstep, ?_⟩, hstep, h.agree _ (hbegun _ (Nat.le_refl _))⟩
  intro step hstepBegun
  apply h.agree
  apply hbegun
  rcases hstepBegun with hlt | ⟨heq, -⟩
  · exact Nat.le_of_lt hlt
  · exact Nat.le_of_eq heq

namespace Synth

variable (synth : Synth) (bpm : UInt32) (voicing : Voicing)

theorem chordAt_of_agree {p q : Pattern} {step : Nat} (h : p.AgreeAt q step) :
    synth.chordAt p step = synth.chordAt q step := by
  simp only [chordAt, h.lead, h.harmony, h.noise]

/-- A sample depends on no more of the pattern than the step it is in. -/
theorem tick_of_agree {p q : Pattern} {cursor : Cursor}
    (hoffset : cursor.offset < synth.stepLength bpm) (hp : cursor.step < p.steps)
    (hq : cursor.step < q.steps) (h : p.AgreeAt q cursor.step) :
    synth.tick p bpm voicing cursor = synth.tick q bpm voicing cursor := by
  rw [tick_of_lt synth p bpm voicing hp hoffset, tick_of_lt synth q bpm voicing hq hoffset,
    synth.chordAt_of_agree h]

/-- What was played of the old pattern is what would have been played of the new one. -/
theorem ticks_of_allows {p q : Pattern} (count : Nat) {cursor : Cursor}
    (hoffset : cursor.offset < synth.stepLength bpm)
    (h : (synth.ticks p bpm voicing count cursor).1.Allows p q) :
    synth.ticks q bpm voicing (synth.ticks p bpm voicing count cursor).2.length cursor =
      synth.ticks p bpm voicing count cursor := by
  induction count with
  | zero => rfl
  | succ count ih =>
      rw [ticks_succ] at h ⊢
      have hsettled := synth.ticks_offset_lt p bpm voicing count hoffset
      generalize synth.ticks p bpm voicing count cursor = before at ih h hsettled ⊢
      by_cases hstep : before.1.step < p.steps
      · simp only [tick_of_lt synth p bpm voicing hstep hsettled] at h
        obtain ⟨hbefore, hq, hagree⟩ := h.back
        have htick := synth.tick_of_agree bpm voicing hsettled hstep hq hagree
        have hone : (synth.tick p bpm voicing before.1).2.length = 1 := by
          rw [tick_of_lt synth p bpm voicing hstep hsettled]
          rfl
        simp only [List.length_append, hone]
        rw [ticks_succ, ih hbefore, htick]
      · -- the old pattern was over, so this sample was not played
        simp only [tick_of_finished synth p bpm voicing (Nat.not_lt.mp hstep)] at h ⊢
        simp only [List.append_nil]
        exact ih h

/--
Blocks of one pattern and then blocks of another one give the beginning of the other one's whole
render, if the cursor between them allows the exchange.  They give all of it, and the cursor is
finished, exactly when there was room for it.
-/
theorem blocks_across_edit (p q : Pattern) (first second : List Nat)
    (hfit : synth.stepLength bpm * q.steps ≤ countMax)
    (hedit : (synth.blocks p bpm voicing .start first).1.Allows p q) :
    let before := synth.blocks p bpm voicing .start first
    let after := synth.blocks q bpm voicing before.1 second
    let room := before.2.size + second.sum
    let total := synth.patternLength q bpm
    before.2 ++ after.2 = (synth.render q bpm voicing).extract 0 (min room total) ∧
      (before.2 ++ after.2 = synth.render q bpm voicing ↔ total ≤ room) ∧
      (after.1.finished q = true ↔ total ≤ room) := by
  intro before after room total
  have hplayed : before = ((synth.ticks p bpm voicing first.sum .start).1,
      (synth.ticks p bpm voicing first.sum .start).2.toArray) :=
    synth.blocks_eq_ticks p bpm voicing .start first
  have hrest : after = ((synth.ticks q bpm voicing second.sum before.1).1,
      (synth.ticks q bpm voicing second.sum before.1).2.toArray) :=
    synth.blocks_eq_ticks q bpm voicing before.1 second
  have hstart : Cursor.start.offset < synth.stepLength bpm := synth.stepLength_pos bpm
  have hsame := synth.ticks_of_allows bpm voicing (p := p) (q := q) first.sum hstart (by
    rw [← congrArg Prod.fst hplayed]
    exact hedit)
  have hwhole : synth.ticks q bpm voicing room .start =
      (after.1, (before.2 ++ after.2).toList) := by
    have hroom : room = (synth.ticks p bpm voicing first.sum .start).2.length + second.sum := by
      simp only [room, hplayed, List.size_toArray]
    rw [hroom, ticks_add, hsame, hrest, hplayed]
    simp
  have hsize := synth.render_size q bpm voicing
  have hheard : before.2 ++ after.2 = (synth.render q bpm voicing).extract 0 room := by
    rw [← ticks_eq_extract, hwhole]
  have htotal : total = (synth.render q bpm voicing).size :=
    (synth.patternLength_eq q bpm hfit).trans hsize.symm
  refine ⟨?_, ?_, ?_⟩
  · rw [hheard, Array.extract_eq_extract_right]
    omega
  · rw [hheard, htotal]
    constructor
    · exact Array.le_of_extract_eq_self
    · exact Array.extract_eq_self_of_le
  · have hfinished := synth.ticks_finished_iff q bpm voicing room
    rw [hwhole, ← hsize, ← htotal] at hfinished
    exact hfinished

theorem blocks_across_edit_after_one_sample :
    let synth := ofRate 8000
    let p : Pattern := ⟨[some 60, some 72], [some 67], [some 0, some 3], 2⟩
    let q : Pattern := ⟨[some 60], [some 67, none], [some 0, some 1], 1⟩
    let voicing : Voicing := ⟨0.5, 0.125, true, true⟩
    let before := synth.blocks p 140 voicing .start [1, 0]
    let after := synth.blocks q 140 voicing before.1 [5, 700]
    let room := before.2.size + [5, 700].sum
    let total := synth.patternLength q 140
    synth.stepLength 140 * q.steps ≤ countMax ∧ before.1.Allows p q ∧
      before.2 ++ after.2 = (synth.render q 140 voicing).extract 0 (min room total) ∧
      (before.2 ++ after.2 = synth.render q 140 voicing ↔ total ≤ room) ∧
      (after.1.finished q = true ↔ total ≤ room) := by
  intro synth p q voicing before after room total
  have hfit : synth.stepLength 140 * q.steps ≤ countMax := by
    simpa [q] using synth.stepLength_le_countMax 140
  have hedit : before.1.Allows p q := by
    have hstart : Cursor.start.offset < synth.stepLength 140 := synth.stepLength_pos 140
    have hcursor : before.1 = (synth.tick p 140 voicing .start).1 :=
      congrArg Prod.fst (synth.blocks_eq_ticks p 140 voicing .start [1, 0])
    rw [hcursor, tick_of_lt synth p 140 voicing (by decide) hstart]
    have hfirst : p.AgreeAt q 0 := ⟨rfl, rfl, rfl⟩
    unfold Cursor.settle
    split
    · refine ⟨Nat.le_refl 1, fun h => absurd h (by decide), fun step hstep => ?_⟩
      rcases hstep with hlt | ⟨-, hnone⟩
      · rwa [Nat.lt_one_iff.mp hlt]
      · exact absurd hnone (by decide)
    · refine ⟨Nat.zero_le 1, fun _ => Nat.zero_lt_one, fun step hstep => ?_⟩
      rcases hstep with hlt | ⟨rfl, -⟩
      · exact absurd hlt (Nat.not_lt_zero step)
      · exact hfirst
  exact ⟨hfit, hedit, blocks_across_edit synth 140 voicing p q [1, 0] [5, 700] hfit hedit⟩

end Synth

end PulseTracker
