import Mathlib.Data.Nat.Bitwise
import PulseTracker.Noise

/-!
# When the noise register stalls

A register of zeros would stay zero for ever.  A long clock never makes one: the
bit it shifts out is also fed back.  A short clock overwrites bit 6 after the
shift, so it loses bit 7, and a register that has bit 7 alone turns to zero.
Nothing else stalls a register.
-/

namespace PulseTracker.NoiseRegister

/-- Fifteen bits that are not all zero. -/
def Running (register : NoiseRegister) : Prop :=
  1 ≤ register.bits ∧ register.bits ≤ 0x7FFF

instance (register : NoiseRegister) : Decidable register.Running :=
  inferInstanceAs (Decidable (_ ∧ _))

def clocks (register : NoiseRegister) (modes : List Bool) : NoiseRegister :=
  modes.foldl (fun register short => register.clock short) register

/-- One of the clocks is short and finds bit 7 alone. -/
def Stalls (register : NoiseRegister) (modes : List Bool) : Prop :=
  ∃ before after, modes = before ++ true :: after ∧ (register.clocks before).bits = 0x80

theorem running_iff {register : NoiseRegister} :
    register.Running ↔ 0 < register.bits.toNat ∧ register.bits.toNat < 2 ^ 15 := by
  simp only [Running, UInt16.le_iff_toNat_le]
  exact and_congr Iff.rfl Nat.lt_succ_iff.symm

theorem ofSeed_running (seed : UInt16) : (ofSeed seed).Running := by
  unfold ofSeed
  dsimp only
  split
  · decide
  · rename_i hbits
    have hlow : (seed &&& 0x7FFF).toNat = seed.toNat % 2 ^ 15 := by
      rw [UInt16.toNat_and]
      exact Nat.and_two_pow_sub_one_eq_mod _ 15
    have hne : (seed &&& 0x7FFF).toNat ≠ 0 := fun h => hbits (UInt16.toNat_inj.mp h)
    exact running_iff.mpr ⟨Nat.pos_of_ne_zero hne, by
      rw [hlow]
      exact Nat.mod_lt _ (by decide)⟩

/-! ## One clock in numbers -/

theorem feedback_toNat (register : NoiseRegister) :
    register.feedback.toNat = (register.bits.toNat + register.bits.toNat / 2) % 2 := by
  have hone : (1 : UInt16).toNat = 1 := rfl
  simp only [feedback, UInt16.toNat_and, UInt16.toNat_xor, UInt16.toNat_shiftRight, hone,
    Nat.and_one_is_mod, Nat.xor_mod_two_eq]
  rfl

theorem clock_long_toNat {register : NoiseRegister} (h : register.bits.toNat < 2 ^ 15) :
    (register.clock false).bits.toNat =
      2 ^ 14 * register.feedback.toNat + register.bits.toNat / 2 := by
  have hbit := register.feedback_toNat
  have hhalf : register.bits.toNat / 2 < 2 ^ 14 := by omega
  have hfed : (register.feedback <<< 14).toNat = 2 ^ 14 * register.feedback.toNat := by
    rw [UInt16.toNat_shiftLeft]
    change register.feedback.toNat <<< 14 % 2 ^ 16 = _
    rw [Nat.shiftLeft_eq]
    omega
  have hshift : (register.bits >>> 1).toNat = register.bits.toNat / 2 := by
    rw [UInt16.toNat_shiftRight]
    rfl
  simp only [clock, Bool.false_eq_true, if_false, UInt16.toNat_or, hfed, hshift]
  rw [Nat.two_pow_add_eq_or_of_lt hhalf, Nat.or_comm]

private theorem and_not_bit_six {n : Nat} (h : n < 2 ^ 16) :
    n &&& 0xFFBF = 2 ^ 7 * (n / 2 ^ 7) + n % 2 ^ 6 := by
  have hlow : n % 2 ^ 6 < 2 ^ 7 := by omega
  have hmask : ∀ i < 16, Nat.testBit 0xFFBF i = (decide (7 ≤ i) || decide (i < 6)) := by decide
  rw [Nat.two_pow_add_eq_or_of_lt hlow]
  apply Nat.eq_of_testBit_eq
  intro i
  simp only [Nat.testBit_and, Nat.testBit_or, Nat.testBit_two_pow_mul,
    Nat.testBit_div_two_pow, Nat.testBit_mod_two_pow]
  by_cases hi : i < 16
  · rw [hmask i hi]
    by_cases hhigh : 7 ≤ i
    · have hback : i - 7 + 7 = i := Nat.sub_add_cancel hhigh
      have hnot : ¬ i < 6 := by omega
      simp [hhigh, hback, hnot]
    · simp [hhigh, Bool.and_comm]
  · have hzero : n.testBit i = false :=
      Nat.testBit_lt_two_pow (Nat.lt_of_lt_of_le h (Nat.pow_le_pow_right (by decide) (by omega)))
    have hback : i - 7 + 7 = i := by omega
    simp [hzero, hback]

theorem clock_short_toNat {register : NoiseRegister} (h : register.bits.toNat < 2 ^ 15) :
    (register.clock true).bits.toNat =
      2 ^ 7 * ((register.clock false).bits.toNat / 2 ^ 7) +
        (2 ^ 6 * register.feedback.toNat + (register.clock false).bits.toNat % 2 ^ 6) := by
  have hbit := register.feedback_toNat
  have hlong := clock_long_toNat h
  have hmask : (~~~(0x40 : UInt16)).toNat = 0xFFBF := by decide
  have hfed : (register.feedback <<< 6).toNat = 2 ^ 6 * register.feedback.toNat := by
    rw [UInt16.toNat_shiftLeft]
    change register.feedback.toNat <<< 6 % 2 ^ 16 = _
    rw [Nat.shiftLeft_eq]
    omega
  have hclock : (register.clock true).bits =
      ((register.clock false).bits &&& ~~~(0x40 : UInt16)) ||| (register.feedback <<< 6) := rfl
  have hlow : (register.clock false).bits.toNat % 2 ^ 6 < 2 ^ 6 := Nat.mod_lt _ (by decide)
  have hfill : 2 ^ 6 * register.feedback.toNat + (register.clock false).bits.toNat % 2 ^ 6 <
      2 ^ 7 := by omega
  have hrest : (register.clock false).bits.toNat % 2 ^ 6 < 2 ^ 7 := by omega
  rw [hclock, UInt16.toNat_or, UInt16.toNat_and, hmask, hfed, and_not_bit_six (by omega),
    Nat.two_pow_add_eq_or_of_lt hfill, Nat.two_pow_add_eq_or_of_lt hrest,
    Nat.two_pow_add_eq_or_of_lt hlow, Nat.or_assoc,
    Nat.or_comm ((register.clock false).bits.toNat % 2 ^ 6)]

/-! ## Running on -/

theorem clock_lt (short : Bool) {register : NoiseRegister}
    (h : register.bits.toNat < 2 ^ 15) : (register.clock short).bits.toNat < 2 ^ 15 := by
  have hbit := register.feedback_toNat
  have hlong := clock_long_toNat h
  have hshort := clock_short_toNat h
  cases short <;> omega

/-- A clock turns a running register to zero if it is short and finds bit 7 alone. -/
theorem clock_running_iff (short : Bool) {register : NoiseRegister} (h : register.Running) :
    (register.clock short).Running ↔ ¬ (short = true ∧ register.bits = 0x80) := by
  obtain ⟨hpos, hlt⟩ := running_iff.mp h
  have hbit := register.feedback_toNat
  have hfed : register.feedback.toNat = 0 ∨ register.feedback.toNat = 1 := by omega
  have hlong := clock_long_toNat hlt
  have hseven : register.bits = 0x80 ↔ register.bits.toNat = 128 := UInt16.toNat_inj.symm
  rw [running_iff, hseven, and_iff_left (clock_lt short hlt)]
  cases short with
  | false =>
      simp only [Bool.false_eq_true, false_and, not_false_eq_true, iff_true]
      rcases hfed with hfed | hfed <;> omega
  | true =>
      have hshort := clock_short_toNat hlt
      simp only [true_and]
      rcases hfed with hfed | hfed <;> omega

theorem clocks_of_zero {register : NoiseRegister} (h : register.bits = 0) (modes : List Bool) :
    (register.clocks modes).bits = 0 := by
  induction modes generalizing register with
  | nil => exact h
  | cons short modes ih =>
      apply ih
      obtain ⟨bits⟩ := register
      cases (show bits = 0 from h)
      cases short <;> rfl

theorem clocks_append (register : NoiseRegister) (first second : List Bool) :
    register.clocks (first ++ second) = (register.clocks first).clocks second :=
  List.foldl_append

theorem stalls_cons (register : NoiseRegister) (short : Bool) (modes : List Bool) :
    register.Stalls (short :: modes) ↔
      (short = true ∧ register.bits = 0x80) ∨ (register.clock short).Stalls modes := by
  constructor
  · rintro ⟨before, after, hmodes, hbits⟩
    cases before with
    | nil =>
        simp only [List.nil_append, List.cons.injEq] at hmodes
        exact .inl ⟨hmodes.1, hbits⟩
    | cons first before =>
        simp only [List.cons_append, List.cons.injEq] at hmodes
        obtain ⟨rfl, rfl⟩ := hmodes
        exact .inr ⟨before, after, rfl, hbits⟩
  · rintro (⟨rfl, hbits⟩ | ⟨before, after, rfl, hbits⟩)
    · exact ⟨[], modes, rfl, hbits⟩
    · exact ⟨short :: before, after, rfl, hbits⟩

theorem clocks_running_iff {register : NoiseRegister} (h : register.Running)
    (modes : List Bool) : (register.clocks modes).Running ↔ ¬ register.Stalls modes := by
  induction modes generalizing register with
  | nil =>
      simp [clocks, h, Stalls]
  | cons short modes ih =>
      have hclocks : register.clocks (short :: modes) = (register.clock short).clocks modes := rfl
      rw [stalls_cons, hclocks]
      by_cases hstall : short = true ∧ register.bits = 0x80
      · have hzero : (register.clock short).bits = 0 := by
          obtain ⟨bits⟩ := register
          obtain ⟨rfl, rfl⟩ : short = true ∧ bits = 0x80 := hstall
          rfl
        have hend := clocks_of_zero hzero modes
        have hstopped : ¬ ((register.clock short).clocks modes).Running := by
          simp [Running, hend]
        exact iff_of_false hstopped (not_not_intro (.inl hstall))
      · simp only [hstall, false_or]
        exact ih ((clock_running_iff short h).mpr hstall)

/-! ## Clocks of one mode -/

/-- Short clocks never empty the low seven bits: those rotate among themselves. -/
theorem clock_short_low {register : NoiseRegister} (h : register.bits.toNat < 2 ^ 15) :
    (register.clock true).bits.toNat % 2 ^ 7 = 0 ↔ register.bits.toNat % 2 ^ 7 = 0 := by
  have hbit := register.feedback_toNat
  have hfed : register.feedback.toNat = 0 ∨ register.feedback.toNat = 1 := by omega
  have hlong := clock_long_toNat h
  have hshort := clock_short_toNat h
  rcases hfed with hfed | hfed <;> omega

theorem clocks_short_low {register : NoiseRegister} (h : register.bits.toNat < 2 ^ 15)
    (count : Nat) :
    (register.clocks (List.replicate count true)).bits.toNat % 2 ^ 7 = 0 ↔
      register.bits.toNat % 2 ^ 7 = 0 := by
  induction count generalizing register with
  | zero => rfl
  | succ count ih =>
      rw [← clock_short_low h]
      exact ih (clock_lt true h)

theorem initial_not_stalls (short : Bool) {modes : List Bool}
    (hmodes : ∀ mode ∈ modes, mode = short) : ¬ initial.Stalls modes := by
  rintro ⟨before, after, rfl, hbits⟩
  cases hmodes true (by simp)
  have hbefore : before = List.replicate before.length true :=
    List.eq_replicate_of_mem fun mode hmode => hmodes mode (by simp [hmode])
  have hlow := clocks_short_low (show initial.bits.toNat < 2 ^ 15 by decide) before.length
  rw [← hbefore, hbits] at hlow
  exact absurd (hlow.mp (by decide)) (by decide)

end PulseTracker.NoiseRegister
