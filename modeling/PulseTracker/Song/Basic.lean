import PulseTracker.Synth.Basic

/-!
# Songs

A pattern together with the settings it is saved with.
-/

namespace PulseTracker

structure Song where
  tempo : UInt32
  /-- Index into `Song.duties` for the harmony. -/
  dutyIndex : UInt8
  shortNoise : Bool
  pattern : Pattern
  deriving DecidableEq, Repr

namespace Song

def duties : List Float32 := [0.125, 0.25, 0.5, 0.75]

def leadDuty : Float32 := 0.5

instance : Inhabited Song :=
  ⟨{ tempo := 120, dutyIndex := 2, shortNoise := false, pattern := default }⟩

/-- Duty of the harmony; an index past the table means its last entry. -/
def duty (song : Song) : Float32 :=
  duties.getD song.dutyIndex.toNat 0.75

/-- How the song is voiced; `sine` is the listener's choice for the lead. -/
def voicing (song : Song) (sine : Bool) : Voicing :=
  { leadDuty := leadDuty
    harmonyDuty := song.duty
    shortNoise := song.shortNoise
    sine }

end Song

end PulseTracker
