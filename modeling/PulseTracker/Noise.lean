import PulseTracker.Synth.Count

/-!
# Noise register

The noise voice is a fifteen-bit shift register.  A clock feeds the exclusive or
of its two lowest bits back in at the top; in short mode the same bit also
replaces bit 6.  The lowest bit is what sounds.
-/

namespace PulseTracker

structure NoiseRegister where
  bits : UInt16
  deriving DecidableEq, Repr

namespace NoiseRegister

def initial : NoiseRegister := ⟨0x7FFF⟩

/-- The low fifteen bits of a seed; an all-zero register would never change, so zero stands
for `initial`. -/
def ofSeed (seed : UInt16) : NoiseRegister :=
  let bits := seed &&& 0x7FFF
  if bits = 0 then initial else ⟨bits⟩

def feedback (register : NoiseRegister) : UInt16 :=
  (register.bits ^^^ (register.bits >>> 1)) &&& 1

def clock (short : Bool) (register : NoiseRegister) : NoiseRegister :=
  let bit := register.feedback
  let shifted := (register.bits >>> 1) ||| (bit <<< 14)
  if short then ⟨(shifted &&& ~~~(0x40 : UInt16)) ||| (bit <<< 6)⟩ else ⟨shifted⟩

def level (register : NoiseRegister) : Int8 :=
  if register.bits &&& 1 = 1 then 1 else -1

end NoiseRegister

/-- Clock of noise pitch 0, in Hz.  Pitch `k` divides it by `2 ^ k`. -/
def noiseClock : Float32 := 4000

/-- Highest noise pitch that sounds; higher ones sound like it. -/
def noisePitchMax : UInt8 := 7

/-- Samples from one clock of a noise pitch to the next, at least one. -/
def noisePeriod (pitch : UInt8) (rate : UInt32) : UInt32 :=
  let k := min pitch noisePitchMax
  let clockHz := noiseClock / ((1 : UInt16) <<< k.toUInt16).toFloat32
  UInt32.ofNatClamp (max 1 (Synth.nearestWhole (rate.toFloat32 / clockHz)))

theorem noisePeriod_pos (pitch : UInt8) (rate : UInt32) : 0 < (noisePeriod pitch rate).toNat := by
  unfold noisePeriod
  dsimp only
  generalize Synth.nearestWhole _ = whole
  have hpos : 1 ≤ max 1 whole := Nat.le_max_left 1 whole
  rcases Nat.lt_or_ge (max 1 whole) UInt32.size with hword | hword
  · rwa [UInt32.toNat_ofNatClamp_of_lt hword]
  · rw [UInt32.toNat_ofNatClamp_of_le hword]
    decide

end PulseTracker
