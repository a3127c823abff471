import Mathlib.Data.Prod.Lex
import PulseTracker.Proofs.Device.Choice

/-!
# The nearest configuration

The penalty of a range packs two distances into one number.  While the channels of the ranges are
not far from each other nothing is lost by that: a smaller penalty means a nearer rate, or one that
is as near and nearer channels.  The rate taken from the chosen range is then, of all rates that the
device lists, the nearest to the one asked for.
-/

namespace PulseTracker

namespace ConfigRange

variable {rate : Option UInt32} {channels : Option UInt16} {ranges : List ConfigRange}
  {range other : ConfigRange}

def Offers (range : ConfigRange) (rate : UInt32) : Prop :=
  range.minRate ≤ rate ∧ rate ≤ range.maxRate

def rateGap (range : ConfigRange) (rate : UInt32) : Nat :=
  (range.minRate.toNat - rate.toNat) + (rate.toNat - range.maxRate.toNat)

/-- How far a range is from a request, in the order of rates first and channels second.  What is not
asked for is not far. -/
def gap (rate : Option UInt32) (channels : Option UInt16) (range : ConfigRange) : Nat ×ₗ Nat :=
  toLex ((rate.map range.rateGap).getD 0, (channels.map range.channelDistance).getD 0)

def FirstNearest (rate : Option UInt32) (channels : Option UInt16) (ranges : List ConfigRange)
    (range : ConfigRange) : Prop :=
  ∃ before after, ranges = before ++ range :: after ∧
    (∀ other ∈ before, range.gap rate channels < other.gap rate channels) ∧
    ∀ other ∈ after, range.gap rate channels ≤ other.gap rate channels

/-! ## The penalty as an order -/

theorem rateDistance_eq_rateGap (h : range.minRate ≤ range.maxRate) (rate : UInt32) :
    range.rateDistance rate = range.rateGap rate := by
  have hordered := UInt32.le_iff_toNat_le.mp h
  unfold rateDistance rateGap distance
  simp only [UInt32.le_iff_toNat_le]
  split <;> omega

theorem channelDistance_lt (channels : UInt16)
    (h : distance range.channels.toNat other.channels.toNat < rateWeight) :
    range.channelDistance channels < other.channelDistance channels + rateWeight := by
  unfold channelDistance distance at *
  omega

/-- The penalty of any range fits in a machine word, so none is cut to the size of one. -/
theorem penalty_lt_size (range : ConfigRange) (rate : Option UInt32) (channels : Option UInt16) :
    range.penalty rate channels < UInt64.size := by
  have hmin := range.minRate.toNat_lt
  have hmax := range.maxRate.toNat_lt
  have hrange := range.channels.toNat_lt
  have hrate : (rate.map range.rateDistance).getD 0 < 2 ^ 32 := by
    cases rate with
    | none => exact Nat.two_pow_pos 32
    | some rate =>
        have hasked := rate.toNat_lt
        simp only [Option.map_some, Option.getD_some, rateDistance, distance]
        split <;> omega
  have hchannels : (channels.map range.channelDistance).getD 0 < 2 ^ 16 := by
    cases channels with
    | none => exact Nat.two_pow_pos 16
    | some channels =>
        have hasked := channels.toNat_lt
        simp only [Option.map_some, Option.getD_some, channelDistance, distance]
        omega
  simp only [penalty, rateWeight, UInt64.size]
  omega

/-- Penalties compare as gaps do, as long as one step of the rate outweighs the channels. -/
theorem penalty_lt_iff (hrange : range.minRate ≤ range.maxRate)
    (hother : other.minRate ≤ other.maxRate)
    (hchannels : distance range.channels.toNat other.channels.toNat < rateWeight) :
    range.penalty rate channels < other.penalty rate channels ↔
      range.gap rate channels < other.gap rate channels := by
  have hback : distance other.channels.toNat range.channels.toNat < rateWeight := by
    unfold distance at *
    omega
  have hminor : (channels.map range.channelDistance).getD 0 <
        (channels.map other.channelDistance).getD 0 + rateWeight ∧
      (channels.map other.channelDistance).getD 0 <
        (channels.map range.channelDistance).getD 0 + rateWeight := by
    cases channels with
    | none => exact ⟨Nat.zero_lt_succ 999, Nat.zero_lt_succ 999⟩
    | some channels => exact ⟨channelDistance_lt channels hchannels, channelDistance_lt channels hback⟩
  have hmajor (range : ConfigRange) (h : range.minRate ≤ range.maxRate) :
      rate.map range.rateDistance = rate.map range.rateGap :=
    Option.map_congr fun rate _ => rateDistance_eq_rateGap h rate
  rw [gap, gap, Prod.Lex.toLex_lt_toLex, penalty, penalty, hmajor range hrange,
    hmajor other hother]
  simp only [rateWeight] at hminor ⊢
  omega

theorem FirstClosest.firstNearest (h : FirstClosest rate channels ranges range)
    (hordered : ∀ range ∈ ranges, range.minRate ≤ range.maxRate)
    (hchannels : ∀ range ∈ ranges, ∀ other ∈ ranges,
      distance range.channels.toNat other.channels.toNat < rateWeight) :
    FirstNearest rate channels ranges range := by
  have hmem := h.mem
  have hlt {first second : ConfigRange} (hfirst : first ∈ ranges) (hsecond : second ∈ ranges) :
      first.penalty rate channels < second.penalty rate channels ↔
        first.gap rate channels < second.gap rate channels :=
    penalty_lt_iff (hordered first hfirst) (hordered second hsecond)
      (hchannels first hfirst second hsecond)
  obtain ⟨before, after, rfl, hbefore, hafter⟩ := h
  refine ⟨before, after, rfl, fun other hother => ?_, fun other hother => ?_⟩
  · exact (hlt hmem (List.mem_append_left _ hother)).mp (hbefore other hother)
  · have hlater : other ∈ before ++ range :: after :=
      List.mem_append_right _ (List.mem_cons_of_mem _ hother)
    exact not_lt.mp fun hnearer => Nat.not_lt.mpr (hafter other hother) ((hlt hlater hmem).mpr hnearer)

theorem FirstNearest.rateGap_le {asked : UInt32}
    (h : FirstNearest (some asked) channels ranges range) (hother : other ∈ ranges) :
    range.rateGap asked ≤ other.rateGap asked := by
  obtain ⟨before, after, rfl, hbefore, hafter⟩ := h
  have hle : range.gap (some asked) channels ≤ other.gap (some asked) channels := by
    rcases List.mem_append.mp hother with hearlier | hlater
    · exact le_of_lt (hbefore other hearlier)
    · rcases List.mem_cons.mp hlater with rfl | hlater
      · exact le_refl _
      · exact hafter other hlater
  rcases Prod.Lex.toLex_le_toLex.mp hle with hnearer | ⟨hsame, -⟩
  · exact Nat.le_of_lt hnearer
  · exact Nat.le_of_eq hsame

/-! ## The rate taken from a range -/

theorem configAt_rate_toNat (range : ConfigRange) (asked : UInt32) :
    (range.configAt (some asked)).rate.toNat =
      max range.minRate.toNat (min range.maxRate.toNat asked.toNat) := by
  simp only [configAt, Max.max, Min.min, UInt32.le_iff_toNat_le]
  split <;> split <;> rfl

theorem distance_configAt (h : range.minRate ≤ range.maxRate) (asked : UInt32) :
    distance (range.configAt (some asked)).rate.toNat asked.toNat = range.rateGap asked := by
  have hordered := UInt32.le_iff_toNat_le.mp h
  rw [configAt_rate_toNat, distance, rateGap]
  omega

theorem distance_configAt_lt (asked : UInt32) {offered : UInt32} (h : range.Offers offered)
    (hne : offered ≠ (range.configAt (some asked)).rate) :
    distance (range.configAt (some asked)).rate.toNat asked.toNat <
      distance offered.toNat asked.toNat := by
  have hmin := UInt32.le_iff_toNat_le.mp h.1
  have hmax := UInt32.le_iff_toNat_le.mp h.2
  have hne : offered.toNat ≠ (range.configAt (some asked)).rate.toNat :=
    fun heq => hne (UInt32.toNat_inj.mp heq)
  rw [configAt_rate_toNat] at hne ⊢
  unfold distance
  omega

theorem rateGap_le_distance (asked : UInt32) {offered : UInt32} (h : range.Offers offered) :
    range.rateGap asked ≤ distance offered.toNat asked.toNat := by
  have hmin := UInt32.le_iff_toNat_le.mp h.1
  have hmax := UInt32.le_iff_toNat_le.mp h.2
  unfold rateGap distance
  omega

end ConfigRange

namespace OutputDevice

open ConfigRange

variable {device : OutputDevice} {ranges : List ConfigRange} {rate : Option UInt32}
  {channels : Option UInt16}

/--
A device with ranges, of which none has more than 32 channels, is asked for a rate, a number of
channels or both.  It is played in the first of its ranges with the least gap, at the one rate of
that range nearest to the rate asked for, or at the highest if none is.  No range of the device
offers a rate that is nearer.
-/
theorem choose_nearest (hranges : device.ranges = .ok ranges) (hsome : ranges ≠ [])
    (hnamed : rate.isSome ∨ channels.isSome)
    (hordered : ∀ range ∈ ranges, range.minRate ≤ range.maxRate)
    (hchannels : ∀ range ∈ ranges, range.channels ≤ 32) :
    ∃ range config, FirstNearest rate channels ranges range ∧
      device.choose rate channels = .ok config ∧
      config.channels = range.channels ∧ config.format = range.format ∧
      range.Offers config.rate ∧
      (rate = none → config.rate = range.maxRate) ∧
      ∀ asked, rate = some asked →
        (∀ offered, range.Offers offered → offered ≠ config.rate →
          distance config.rate.toNat asked.toNat < distance offered.toNat asked.toNat) ∧
        ∀ other ∈ ranges, ∀ offered, other.Offers offered →
          distance config.rate.toNat asked.toNat ≤ distance offered.toNat asked.toNat := by
  obtain ⟨range, hclosest⟩ : ∃ range, closest rate channels ranges = some range :=
    Option.ne_none_iff_exists'.mp fun hnone => hsome (eq_nil_of_closest_eq_none hnone)
  have hfirst := closest_eq_some_iff.mp hclosest
  have hrange := hordered range hfirst.mem
  have hweight : ∀ range ∈ ranges, ∀ other ∈ ranges,
      distance range.channels.toNat other.channels.toNat < rateWeight := by
    intro range hrange other hother
    have hfew := UInt16.le_iff_toNat_le.mp (hchannels range hrange)
    have hfew' := UInt16.le_iff_toNat_le.mp (hchannels other hother)
    simp only [UInt16.reduceToNat] at hfew hfew'
    unfold distance rateWeight
    omega
  have hnearest := hfirst.firstNearest hordered hweight
  refine ⟨range, range.configAt rate, hnearest, choose_of_closest hranges hnamed hclosest, rfl, rfl,
    configAt_rate_mem hrange rate, ?_, ?_⟩
  · rintro rfl
    rfl
  · rintro asked rfl
    refine ⟨fun offered => distance_configAt_lt asked, fun other hother offered hoffers => ?_⟩
    rw [distance_configAt hrange]
    exact Nat.le_trans (hnearest.rateGap_le hother) (rateGap_le_distance asked hoffers)

theorem choose_nearest_many_channels :
    let ranges : List ConfigRange :=
      [⟨32, 44100, 48000, .i16⟩, ⟨1, 44001, 96000, .f32⟩, ⟨2, 44001, 48000, .u16⟩,
        ⟨2, 8000, 43999, .f32⟩]
    let device : OutputDevice := ⟨some "a", .ok ranges, .error .unsupported, .ok (), .ok ()⟩
    device.ranges = .ok ranges ∧ ranges ≠ [] ∧
      ((some 44000 : Option UInt32).isSome ∨ (some 65535 : Option UInt16).isSome) ∧
      (∀ range ∈ ranges, range.minRate ≤ range.maxRate) ∧
      (∀ range ∈ ranges, range.channels ≤ 32) ∧
      device.choose (some 44000) (some 65535) = .ok ⟨2, 44001, .u16⟩ ∧
      ∀ other ∈ ranges, ∀ offered, other.Offers offered →
        distance 44001 44000 ≤ distance offered.toNat 44000 := by
  intro ranges device
  have hordered : ∀ range ∈ ranges, range.minRate ≤ range.maxRate := by decide
  have hchannels : ∀ range ∈ ranges, range.channels ≤ 32 := by decide
  have hnamed : (some 44000 : Option UInt32).isSome ∨ (some 65535 : Option UInt16).isSome := by
    decide
  have hclosest : closest (some 44000) (some 65535) ranges = some ⟨2, 44001, 48000, .u16⟩ := by
    decide
  have hchoice : device.choose (some 44000) (some 65535) = .ok ⟨2, 44001, .u16⟩ :=
    choose_of_closest rfl hnamed hclosest
  obtain ⟨range, config, -, hconfig, -, -, -, -, hrate⟩ :=
    choose_nearest (show device.ranges = .ok ranges from rfl) (by decide) hnamed hordered hchannels
  rw [hchoice] at hconfig
  cases hconfig
  exact ⟨rfl, by decide, hnamed, hordered, hchannels, hchoice, (hrate 44000 rfl).2⟩

end OutputDevice

end PulseTracker
