import PulseTracker.Synth.Basic

/-!
# Rendering block by block

A block continues from a cursor and stops when it is full or the pattern ends,
in the middle of a step if need be.  The step length follows the tempo of each
call, so a cursor may stand past the end of a step that has become shorter; such
a step counts as over.
-/

namespace PulseTracker

namespace Synth

/-- The samples one pass of the loop takes from the current step, and the cursor after them. -/
def renderPart (synth : Synth) (pattern : Pattern) (bpm : UInt32) (voicing : Voicing)
    (room : Nat) (cursor : Cursor) (out : Array Int16) : Nat × Cursor × Array Int16 :=
  let chord := synth.chordAt pattern cursor.step
  let size := synth.stepLength bpm
  let osc := if cursor.offset = 0 then cursor.oscillators.arm chord else cursor.oscillators
  let count := min room (size - cursor.offset)
  let (osc, out) := renderSpan chord voicing ⟨size⟩ cursor.offset count osc out
  let offset := cursor.offset + count
  if offset ≥ size then (count, ⟨cursor.step + 1, 0, osc⟩, out)
  else (count, ⟨cursor.step, offset, osc⟩, out)

/-- A pass either fills what room there was or moves to the next step. -/
theorem renderPart_progress (synth : Synth) (pattern : Pattern) (bpm : UInt32)
    (voicing : Voicing) (room : Nat) (cursor : Cursor) (out : Array Int16)
    (hroom : 0 < room) (hstep : cursor.step < pattern.steps) :
    (room - (synth.renderPart pattern bpm voicing room cursor out).1) +
        (pattern.steps - (synth.renderPart pattern bpm voicing room cursor out).2.1.step) <
      room + (pattern.steps - cursor.step) := by
  unfold renderPart
  dsimp only
  split
  · dsimp only
    omega
  · rename_i h
    dsimp only
    omega

/-- Fill `room` samples from the cursor on, or as many as the pattern still has. -/
def renderFrom (synth : Synth) (pattern : Pattern) (bpm : UInt32) (voicing : Voicing)
    (room : Nat) (cursor : Cursor) (out : Array Int16) : Cursor × Array Int16 :=
  if h : 0 < room ∧ cursor.step < pattern.steps then
    have := synth.renderPart_progress pattern bpm voicing room cursor out h.1 h.2
    let part := synth.renderPart pattern bpm voicing room cursor out
    renderFrom synth pattern bpm voicing (room - part.1) part.2.1 part.2.2
  else (cursor, out)
termination_by room + (pattern.steps - cursor.step)

def next (synth : Synth) (pattern : Pattern) (bpm : UInt32) (voicing : Voicing)
    (cursor : Cursor) (room : Nat) : Cursor × Array Int16 :=
  synth.renderFrom pattern bpm voicing room cursor #[]

end Synth

end PulseTracker
