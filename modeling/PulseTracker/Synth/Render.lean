import PulseTracker.Synth.Basic

/-!
# Rendering a whole pattern

The bulk renderer walks the pattern step by step.  Every step is rendered in
full before the next one begins.
-/

namespace PulseTracker

namespace Synth

def renderSteps (synth : Synth) (pattern : Pattern) (bpm : UInt32) (voicing : Voicing) :
    Nat → Nat → Oscillators → Array Int16 → Array Int16
  | _, 0, _, out => out
  | step, count + 1, osc, out =>
      let chord := synth.chordAt pattern step
      let size := synth.stepLength bpm
      let (osc, out) := renderSpan chord voicing ⟨size⟩ 0 size (osc.arm chord) out
      renderSteps synth pattern bpm voicing (step + 1) count osc out

def render (synth : Synth) (pattern : Pattern) (bpm : UInt32) (voicing : Voicing) :
    Array Int16 :=
  synth.renderSteps pattern bpm voicing 0 pattern.steps .initial #[]

end Synth

end PulseTracker
