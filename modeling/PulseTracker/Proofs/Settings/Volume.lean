import Mathlib.Logic.Function.Iterate
import PulseTracker.Proofs.Decimal.Places
import PulseTracker.Proofs.Settings.Switch

/-!
# Loading and writing over and over

A program loads the settings when it starts and may write them before it ends.  The volume is
rounded when it is written for the first time, and never again: what is loaded is written with the
same two texts.
-/

namespace PulseTracker.Settings

variable {store : Store κ}

def cycle (store : Store κ) (kept : κ) : κ := ((load store kept).persist store kept).2

structure Says (settings : Settings) (store : Store κ) (kept : κ) : Prop where
  enabled : store.get? kept enabledKey = some settings.enabledText
  volume : store.get? kept volumeKey = some settings.volumeText

structure Alike (settings settings' : Settings) : Prop where
  enabled : settings.enabled = settings'.enabled
  volume : settings.volumeText = settings'.volumeText

theorem Alike.enabledText {settings settings' : Settings} (h : settings.Alike settings') :
    settings.enabledText = settings'.enabledText := by
  rw [Settings.enabledText, h.enabled, Settings.enabledText]

theorem Alike.persist {settings settings' : Settings} (h : settings.Alike settings')
    (store : Store κ) : settings.persist store = settings'.persist store := by
  funext kept
  rw [Settings.persist, Settings.persist, h.enabledText, h.volume]

/-! ## Writing -/

theorem persist_says (hstore : store.Lawful) {settings : Settings} {first kept : κ}
    (h : settings.persist store first = (.ok (), kept)) : settings.Says store kept := by
  unfold persist at h
  split at h
  · cases h
  · rename_i between hset
    have hother := hstore.other volumeKey settings.volumeText between
      (show enabledKey ≠ volumeKey by decide)
    rw [h] at hother
    exact ⟨hother.trans (hstore.givesBack hset), hstore.givesBack h⟩

theorem Says.persist (hstore : store.Lawful) {settings : Settings} {kept : κ}
    (h : settings.Says store kept) : settings.Says store (settings.persist store kept).2 := by
  -- a write that fails leaves the old text, which is the new one
  have hagain {key text : String} {kept : κ} (hbefore : store.get? kept key = some text) :
      store.get? (store.set key text kept).2 key = some text :=
    (hstore.old_or_new key text kept).elim id fun hold => hold.trans hbefore
  have hswitch : settings.Says store (store.set enabledKey settings.enabledText kept).2 :=
    ⟨hagain h.enabled, (hstore.other enabledKey _ kept (by decide)).trans h.volume⟩
  unfold Settings.persist
  split
  · rename_i hset
    rwa [hset] at hswitch
  · rename_i between hset
    rw [hset] at hswitch
    exact ⟨(hstore.other volumeKey _ between (by decide)).trans hswitch.enabled,
      hagain hswitch.volume⟩

/-! ## Loading -/

theorem volumeOfText?_volumeText {settings : Settings}
    (h : 0 ≤ settings.volume ∧ settings.volume ≤ 1) :
    ∃ volume : Float32, volumeOfText? settings.volumeText = some volume ∧
      Decimal.fixed 3 volume = settings.volumeText := by
  obtain ⟨volume, hread, ⟨hlow, hhigh⟩, hfixed⟩ :=
    Decimal.readChars_trim_fixedChars (show 0 < 3 by decide) (by decide) h
  refine ⟨volume, ?_, congrArg String.ofList hfixed⟩
  rw [volumeOfText?, volumeText, Decimal.fixed, String.toList_ofList, hread]
  simp only [Single.isNaN_of_le hlow, Bool.false_eq_true, if_false,
    Single.clampTo_of_le hlow hhigh]

theorem volumeText_nonempty (settings : Settings) : settings.volumeText.isEmpty = false := by
  rw [String.isEmpty_eq_false_iff, volumeText, Decimal.fixed, ne_eq, String.ofList_eq_empty_iff]
  exact Decimal.fixedChars_ne_nil 3 settings.volume

theorem Says.load_alike {settings : Settings} (hvolume : 0 ≤ settings.volume ∧ settings.volume ≤ 1)
    {kept : κ} (h : settings.Says store kept) : (load store kept).Alike settings := by
  obtain ⟨volume, hread, hfixed⟩ := volumeOfText?_volumeText hvolume
  refine ⟨inStep_of_get h.enabled, ?_⟩
  have hloaded : (load store kept).volume = volume := by
    simp only [load, text?, h.volume, Option.filter_some, volumeText_nonempty, Bool.not_false,
      if_true, Option.bind_some, hread, Option.getD_some]
  rw [volumeText, hloaded, hfixed]

/-! ## Cycles -/

section Cycles

variable {settings : Settings} (hstore : store.Lawful)
  (hvolume : 0 ≤ settings.volume ∧ settings.volume ≤ 1) {kept : κ}
  (h : settings.Says store kept)

include hstore hvolume h

theorem Says.cycle : settings.Says store (cycle store kept) := by
  rw [Settings.cycle, (h.load_alike hvolume).persist]
  exact h.persist hstore

theorem Says.cycles (n : Nat) : settings.Says store ((Settings.cycle store)^[n] kept) := by
  induction n with
  | zero => exact h
  | succ n ih =>
      rw [Function.iterate_succ_apply']
      exact Says.cycle hstore hvolume ih

end Cycles

theorem load_congr {kept kept' : κ}
    (henabled : store.get? kept' enabledKey = store.get? kept enabledKey)
    (hvolume : store.get? kept' volumeKey = store.get? kept volumeKey) :
    load store kept' = load store kept := by
  simp only [load, text?, henabled, hvolume]

/--
The settings are written once and then loaded and written any number of times, and it does not
matter whether these later writes succeed.  What is loaded is always the same: the switch is as it
was, and writing it does what writing the settings did, with the same two texts, which are the ones
in the store.
-/
theorem load_cycles (hstore : store.Lawful) {settings : Settings}
    (hvolume : 0 ≤ settings.volume ∧ settings.volume ≤ 1) {first kept : κ}
    (hkept : settings.persist store first = (.ok (), kept)) (n : Nat) :
    let later := (cycle store)^[n] kept
    let loaded := load store later
    loaded = load store kept ∧ loaded.enabled = settings.enabled ∧
      loaded.enabledText = settings.enabledText ∧ loaded.volumeText = settings.volumeText ∧
      loaded.persist store = settings.persist store ∧
      store.get? later enabledKey = some settings.enabledText ∧
      store.get? later volumeKey = some settings.volumeText := by
  intro later loaded
  have hfirst := persist_says hstore hkept
  have hlater : settings.Says store later := Says.cycles hstore hvolume hfirst n
  have halike : loaded.Alike settings := hlater.load_alike hvolume
  exact ⟨load_congr (hlater.enabled.trans hfirst.enabled.symm)
    (hlater.volume.trans hfirst.volume.symm), halike.enabled, halike.enabledText, halike.volume,
    halike.persist store, hlater.enabled, hlater.volume⟩

theorem load_cycles_of_a_sixteenth :
    let settings : Settings := ⟨false, Float32.ofBits 0x3D800000⟩
    let kept := (settings.persist tableStore .empty).2
    let later := (cycle tableStore)^[2] kept
    let loaded := load tableStore later
    tableStore.Lawful ∧ (0 ≤ settings.volume ∧ settings.volume ≤ 1) ∧
      settings.persist tableStore .empty = (.ok (), kept) ∧
      loaded.enabled = false ∧ loaded.volume ≠ settings.volume ∧ loaded.volumeText = "0.062" ∧
      tableStore.get? later volumeKey = some "0.062" := by
  intro settings kept later loaded
  have hvolume : 0 ≤ settings.volume ∧ settings.volume ≤ 1 := by decide
  have hkept : settings.persist tableStore .empty = (.ok (), kept) := rfl
  have htext : settings.volumeText = "0.062" := by decide
  have hrounded : (load tableStore kept).volume ≠ settings.volume := by decide
  obtain ⟨hsame, henabled, -, hvolumeText, -, -, hget⟩ :=
    load_cycles tableStore_lawful hvolume hkept 2
  rw [htext] at hvolumeText hget
  rw [← hsame] at hrounded
  exact ⟨tableStore_lawful, hvolume, rfl, henabled, hrounded, hvolumeText, hget⟩

end PulseTracker.Settings
