import PulseTracker.Device.Choice

/-!
# Which configuration is chosen

A device lists its configurations in an order of its own.  Of those that are closest to a request
the first one is taken, and the format has no say in that.  So a device can be refused for the
format of the first one while another, as close, could be played.
-/

namespace PulseTracker

/-! ## The closest range -/

namespace ConfigRange

variable {rate : Option UInt32} {channels : Option UInt16} {ranges : List ConfigRange}
  {range : ConfigRange}

/-- The range is closer to the request than those before it in the list, and those behind it are
no closer. -/
def FirstClosest (rate : Option UInt32) (channels : Option UInt16) (ranges : List ConfigRange)
    (range : ConfigRange) : Prop :=
  ∃ before after, ranges = before ++ range :: after ∧
    (∀ other ∈ before, range.penalty rate channels < other.penalty rate channels) ∧
    ∀ other ∈ after, range.penalty rate channels ≤ other.penalty rate channels

theorem FirstClosest.mem (h : FirstClosest rate channels ranges range) : range ∈ ranges := by
  obtain ⟨before, after, rfl, -, -⟩ := h
  exact List.mem_append_right before List.mem_cons_self

theorem FirstClosest.le (h : FirstClosest rate channels ranges range) {other : ConfigRange}
    (hother : other ∈ ranges) : range.penalty rate channels ≤ other.penalty rate channels := by
  obtain ⟨before, after, rfl, hbefore, hafter⟩ := h
  rcases List.mem_append.mp hother with hearlier | hlater
  · exact Nat.le_of_lt (hbefore other hearlier)
  · rcases List.mem_cons.mp hlater with rfl | hlater
    · exact Nat.le_refl _
    · exact hafter other hlater

theorem firstClosest_head {rest : List ConfigRange}
    (h : ∀ other ∈ rest, range.penalty rate channels ≤ other.penalty rate channels) :
    FirstClosest rate channels (range :: rest) range :=
  ⟨[], rest, rfl, by simp, h⟩

theorem FirstClosest.behind (h : FirstClosest rate channels ranges range) {first : ConfigRange}
    (hfirst : range.penalty rate channels < first.penalty rate channels) :
    FirstClosest rate channels (first :: ranges) range := by
  obtain ⟨before, after, rfl, hbefore, hafter⟩ := h
  exact ⟨first :: before, after, rfl, List.forall_mem_cons.mpr ⟨hfirst, hbefore⟩, hafter⟩

theorem eq_nil_of_closest_eq_none (h : closest rate channels ranges = none) : ranges = [] := by
  cases ranges with
  | nil => rfl
  | cons first rest =>
      unfold closest at h
      cases hrest : closest rate channels rest with
      | none =>
          rw [hrest] at h
          cases h
      | some other =>
          rw [hrest] at h
          dsimp only at h
          split at h
          · cases h
          · cases h

theorem firstClosest_of_closest (h : closest rate channels ranges = some range) :
    FirstClosest rate channels ranges range := by
  induction ranges generalizing range with
  | nil => cases h
  | cons first rest ih =>
      unfold closest at h
      cases hrest : closest rate channels rest with
      | none =>
          rw [hrest] at h
          cases h
          obtain rfl := eq_nil_of_closest_eq_none hrest
          exact firstClosest_head (by simp)
      | some other =>
          rw [hrest] at h
          dsimp only at h
          split at h
          · rename_i hcloser
            cases h
            exact (ih hrest).behind hcloser
          · rename_i hcloser
            cases h
            apply firstClosest_head
            intro candidate hmem
            exact Nat.le_trans (Nat.le_of_not_lt hcloser) ((ih hrest).le hmem)

theorem FirstClosest.closest_eq (h : FirstClosest rate channels ranges range) :
    closest rate channels ranges = some range := by
  obtain ⟨before, after, rfl, hbefore, hafter⟩ := h
  induction before with
  | nil =>
      rw [List.nil_append, closest]
      cases hrest : closest rate channels after with
      | none => rfl
      | some other =>
          have hmem := (firstClosest_of_closest hrest).mem
          exact if_neg (Nat.not_lt.mpr (hafter other hmem))
  | cons first before ih =>
      obtain ⟨hfirst, hbefore⟩ := List.forall_mem_cons.mp hbefore
      rw [List.cons_append, closest, ih hbefore]
      exact if_pos hfirst

theorem closest_eq_some_iff :
    closest rate channels ranges = some range ↔ FirstClosest rate channels ranges range :=
  ⟨firstClosest_of_closest, FirstClosest.closest_eq⟩

theorem configAt_rate_mem (h : range.minRate ≤ range.maxRate) (rate : Option UInt32) :
    range.minRate ≤ (range.configAt rate).rate ∧ (range.configAt rate).rate ≤ range.maxRate := by
  cases rate with
  | none => exact ⟨h, UInt32.le_refl _⟩
  | some rate =>
      simp only [configAt, Max.max, Min.min]
      grind

end ConfigRange

/-! ## Opening -/

theorem OutputDevice.choose_of_closest {device : OutputDevice} {ranges : List ConfigRange}
    {rate : Option UInt32} {channels : Option UInt16} {range : ConfigRange}
    (hranges : device.ranges = .ok ranges) (hnamed : rate.isSome ∨ channels.isSome)
    (h : ConfigRange.closest rate channels ranges = some range) :
    device.choose rate channels = .ok (range.configAt rate) := by
  have hsome : ¬(rate.isNone ∧ channels.isNone) := by
    rintro ⟨hrate, hchannels⟩
    rw [Option.isNone_iff_eq_none] at hrate hchannels
    rw [hrate, hchannels] at hnamed
    exact absurd hnamed (by decide)
  simp only [choose, if_neg hsome, hranges, h]

namespace AudioHost

variable {host : AudioHost} {request : DeviceRequest} {device : OutputDevice}

theorem plan_of_closest {ranges : List ConfigRange} {range : ConfigRange}
    (hpick : host.pick request.device = .ok device) (hranges : device.ranges = .ok ranges)
    (hnamed : request.rate.isSome ∨ request.channels.isSome)
    (h : ConfigRange.closest request.rate request.channels ranges = some range) :
    host.plan request = .ok (device, range.configAt request.rate) := by
  simp only [plan, hpick, OutputDevice.choose_of_closest hranges hnamed h]

theorem openStream_of_not_streamable {config : StreamConfig}
    (h : host.plan request = .ok (device, config)) (hformat : config.format.streamable = false) :
    host.openStream request =
      .error (DeviceError.unsupportedFormat config.format).toSoundError := by
  simp only [openStream, h, hformat]
  rfl

theorem refused_iff_of_plan {config : StreamConfig} (h : host.plan request = .ok (device, config)) :
    (∃ format, host.openStream request =
        .error (DeviceError.unsupportedFormat format).toSoundError) ↔
      config.format.streamable = false := by
  constructor
  · rintro ⟨format, hrefused⟩
    cases hstreamable : config.format.streamable with
    | false => rfl
    | true =>
        simp only [openStream, h] at hrefused
        rw [hstreamable, if_neg (by decide)] at hrefused
        split at hrefused
        · cases hrefused
        · cases hrefused
        · cases hrefused
  · intro hstreamable
    exact ⟨config.format, openStream_of_not_streamable h hstreamable⟩

/--
A device has ranges of which some can be played, and a rate or a number of channels is asked for.
The first of the ranges closest to that is taken, at a rate inside it, and the device is refused for
its format exactly when that range cannot be played, whatever the others are.
-/
theorem open_refused_iff_first_closest {ranges : List ConfigRange}
    (hpick : host.pick request.device = .ok device) (hranges : device.ranges = .ok ranges)
    (hnamed : request.rate.isSome ∨ request.channels.isSome)
    (hordered : ∀ range ∈ ranges, range.minRate ≤ range.maxRate)
    (husable : ∃ range ∈ ranges, range.format.streamable) :
    ∃ range, ConfigRange.FirstClosest request.rate request.channels ranges range ∧
      host.plan request = .ok (device, range.configAt request.rate) ∧
      range.minRate ≤ (range.configAt request.rate).rate ∧
      (range.configAt request.rate).rate ≤ range.maxRate ∧
      ((∃ format, host.openStream request =
          .error (DeviceError.unsupportedFormat format).toSoundError) ↔
        range.format.streamable = false) := by
  obtain ⟨usable, hmem, -⟩ := husable
  obtain ⟨range, hclosest⟩ : ∃ range,
      ConfigRange.closest request.rate request.channels ranges = some range := by
    cases hclosest : ConfigRange.closest request.rate request.channels ranges with
    | none =>
        exact absurd (ConfigRange.eq_nil_of_closest_eq_none hclosest) (List.ne_nil_of_mem hmem)
    | some range => exact ⟨range, rfl⟩
  have hfirst := ConfigRange.closest_eq_some_iff.mp hclosest
  have hplan := plan_of_closest hpick hranges hnamed hclosest
  obtain ⟨hmin, hmax⟩ := ConfigRange.configAt_rate_mem (hordered range hfirst.mem) request.rate
  exact ⟨range, hfirst, hplan, hmin, hmax, refused_iff_of_plan hplan⟩

theorem open_refused_iff_first_closest_far_off :
    let ranges : List ConfigRange :=
      [⟨6, 44100, 48000, .f32⟩, ⟨2, 8000, 96000, .u8⟩, ⟨2, 8000, 96000, .i16⟩]
    let device : OutputDevice := ⟨some "a", .ok ranges, .error .unsupported, .ok (), .ok ()⟩
    let host : AudioHost := ⟨[device], .ok (), some 0⟩
    let request : DeviceRequest := ⟨some "a", some 192000, some 1⟩
    host.pick request.device = .ok device ∧ device.ranges = .ok ranges ∧
      (request.rate.isSome ∨ request.channels.isSome) ∧
      (∀ range ∈ ranges, range.minRate ≤ range.maxRate) ∧
      (∃ range ∈ ranges, range.format.streamable) ∧
      ∃ format, host.openStream request =
        .error (DeviceError.unsupportedFormat format).toSoundError := by
  intro ranges device host request
  have hpick : host.pick request.device = .ok device := rfl
  have hnamed : request.rate.isSome ∨ request.channels.isSome := by decide
  have hordered : ∀ range ∈ ranges, range.minRate ≤ range.maxRate := by decide
  have husable : ∃ range ∈ ranges, range.format.streamable := by decide
  obtain ⟨range, hfirst, -, -, -, hrefused⟩ :=
    open_refused_iff_first_closest hpick rfl hnamed hordered husable
  refine ⟨hpick, rfl, hnamed, hordered, husable, hrefused.mpr ?_⟩
  have hclosest : ConfigRange.closest request.rate request.channels ranges =
      some ⟨2, 8000, 96000, .u8⟩ := by decide
  rw [hfirst.closest_eq] at hclosest
  cases hclosest
  rfl

/-- A device that plays when nothing is asked for is refused when a rate is named that two of its
ranges have: the first of them has a format that cannot be played, and the second one is not
looked at. -/
theorem usable_device_refused :
    let ranges : List ConfigRange := [⟨2, 44100, 48000, .i32⟩, ⟨2, 44100, 48000, .f32⟩]
    let device : OutputDevice := ⟨some "a", .ok ranges, .ok ⟨2, 48000, .f32⟩, .ok (), .ok ()⟩
    let host : AudioHost := ⟨[device], .ok (), some 0⟩
    (∀ range ∈ ranges, range.minRate ≤ range.maxRate) ∧
      (∃ range ∈ ranges, range.format.streamable) ∧
      host.openStream ⟨none, none, none⟩ = .ok ⟨2, 48000, .f32⟩ ∧
      host.openStream ⟨none, some 48000, none⟩ =
        .error (DeviceError.unsupportedFormat .i32).toSoundError := by
  intro ranges device host
  have hclosest : ConfigRange.closest (some 48000) none ranges =
      some ⟨2, 44100, 48000, .i32⟩ := by decide
  have hpick : host.pick none = .ok device := rfl
  have hplan : host.plan ⟨none, some 48000, none⟩ =
      .ok (device, ConfigRange.configAt ⟨2, 44100, 48000, .i32⟩ (some 48000)) :=
    plan_of_closest hpick rfl (by decide) hclosest
  exact ⟨by decide, by decide, rfl, openStream_of_not_streamable hplan rfl⟩

end AudioHost

end PulseTracker
