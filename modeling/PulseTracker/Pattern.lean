/-!
# Step patterns

A pattern holds a lead, a harmony and a noise voice over a number of steps.
`none` is a rest.  The lists may be shorter than the pattern; past their end
every step rests.
-/

namespace PulseTracker

structure Pattern where
  lead : List (Option UInt8)
  harmony : List (Option UInt8)
  noise : List (Option UInt8)
  steps : Nat
  deriving DecidableEq, Repr

namespace Pattern

/-- One bar of sixteenth notes. -/
def barSteps : Nat := 16

def rests (steps : Nat) : Pattern :=
  { lead := List.replicate steps none
    harmony := List.replicate steps none
    noise := List.replicate steps none
    steps }

instance : Inhabited Pattern := ⟨rests barSteps⟩

def leadAt (pattern : Pattern) (step : Nat) : Option UInt8 :=
  pattern.lead[step]?.join

def harmonyAt (pattern : Pattern) (step : Nat) : Option UInt8 :=
  pattern.harmony[step]?.join

def noiseAt (pattern : Pattern) (step : Nat) : Option UInt8 :=
  pattern.noise[step]?.join

/-- Set one step of the lead; a step past its list changes nothing. -/
def setLead (pattern : Pattern) (step : Nat) (note : Option UInt8) : Pattern :=
  { pattern with lead := pattern.lead.set step note }

def setHarmony (pattern : Pattern) (step : Nat) (note : Option UInt8) : Pattern :=
  { pattern with harmony := pattern.harmony.set step note }

def setNoise (pattern : Pattern) (step : Nat) (pitch : Option UInt8) : Pattern :=
  { pattern with noise := pattern.noise.set step pitch }

def cutLists (pattern : Pattern) (length : Nat) : Pattern :=
  { pattern with
    lead := pattern.lead.take length
    harmony := pattern.harmony.take length
    noise := pattern.noise.take length }

end Pattern

end PulseTracker
