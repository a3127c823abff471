import PulseTracker.Proofs.Disk.Elsewhere
import PulseTracker.Proofs.Settings.Switch
import PulseTracker.Proofs.Store.Cells

/-!
# A switch that stays off

The switch lies in a file with all other keys, and every change writes that file anew.  As long as
the switch is not turned on, it is off in the file and in an open store, whether the writes succeed
or not.  A file in which it is off can be read, since it is on where there is no file.
-/

namespace PulseTracker

def Disk.Muted (path : String) (disk : Disk) : Prop :=
  ∃ store, DiskStore.openAt disk path = .ok store ∧
    (Settings.load DiskStore.kept store).enabled = false

structure DiskStore.Muted (path : String) (store : DiskStore) : Prop where
  here : store.path = path
  off : (Settings.load kept store).enabled = false
  file : store.disk.Muted path

namespace Disk

variable {disk disk' : Disk} {path : String}

theorem Muted.of_read (h : disk.Muted path) (hread : disk'.read path = disk.read path) :
    disk'.Muted path := by
  obtain ⟨store, hopen, hoff⟩ := h
  simp only [DiskStore.openAt, readStore, ← hread] at hopen
  split at hopen
  · rename_i contents hcontents
    cases hopen
    refine ⟨⟨path, contents.start, disk'⟩, ?_, hoff⟩
    simp only [DiskStore.openAt, readStore, hcontents]
  · cases hopen

theorem Muted.readable (h : disk.Muted path) : ∃ contents, disk.read path = .ok contents := by
  obtain ⟨store, hopen, hoff⟩ := h
  cases hread : disk.read path with
  | ok contents => exact ⟨contents, rfl⟩
  | error error =>
      by_cases hmissing : error = .missing
      · rw [hmissing] at hread
        rw [DiskStore.openAt_of_missing hread] at hopen
        cases hopen
        -- without a file the table is empty, and the sound is on
        cases hoff
      · simp only [DiskStore.openAt, readStore, hread] at hopen
        cases hopen

theorem Muted.write_elsewhere {other : String} {written : ByteArray} (h : disk.Muted path)
    (hwrite : disk.write other written = .ok disk')
    (hother : (Path.ofText other).place ≠ (Path.ofText path).place) : disk'.Muted path := by
  obtain ⟨contents, hread⟩ := h.readable
  have hread' := read_write_elsewhere hread hwrite hother
  exact h.of_read (hread'.trans hread.symm)

end Disk

namespace DiskStore

variable {disk : Disk} {path : String} {store : DiskStore}

theorem openAt_disk (h : openAt disk path = .ok store) : store.disk = disk := by
  unfold openAt at h
  split at h
  · cases h
    rfl
  · cases h

theorem Muted.of_openAt (h : disk.Muted path) (hopen : openAt disk path = .ok store) :
    store.Muted path := by
  refine ⟨openAt_path hopen, ?_, (openAt_disk hopen).symm ▸ h⟩
  obtain ⟨other, hother, hoff⟩ := h
  obtain rfl : store = other := Except.ok.inj (hopen.symm.trans hother)
  exact hoff

/-! ## One key -/

theorem read_of_set_error {last : DiskStore} {key value other : String} {contents : ByteArray}
    {error : SoundError} (hread : store.disk.read other = .ok contents)
    (h : store.set key value = (.error error, last)) : last.disk.read other = .ok contents := by
  simp only [set, save, Prod.mk.injEq] at h
  obtain ⟨hresult, rfl⟩ := h
  cases hwrite : store.disk.writeInto store.path
      (Toml.write (store.table.insert key value)).toUTF8 with
  | mk result disk =>
      rw [hwrite] at hresult
      cases result with
      | ok _ => cases hresult
      | error error => exact Disk.read_writeInto_error hread hwrite

theorem load_enabled_set {key value : String}
    (hvalue : key = Settings.enabledKey → value = Settings.enabledText ⟨false, 0⟩)
    (h : (Settings.load kept store).enabled = false) :
    (Settings.load kept (kept.set key value store).2).enabled = false := by
  by_cases hkey : key = Settings.enabledKey
  · have hget : kept.get? (kept.set key value store).2 Settings.enabledKey =
        some (Settings.enabledText ⟨false, 0⟩) := by
      simp only [kept, set_table, Table.get?_insert, hkey, if_true, hvalue hkey]
    exact Settings.inStep_of_get hget
  · rw [← h]
    exact Settings.load_enabled_congr (kept_lawful.other key value store (Ne.symm hkey))

theorem Muted.set (h : store.Muted path) {key value : String}
    (hvalue : key = Settings.enabledKey → value = Settings.enabledText ⟨false, 0⟩) :
    (kept.set key value store).2.Muted path := by
  have hoff := load_enabled_set hvalue h.off
  have hpath : (kept.set key value store).2.path = path := by
    simp only [kept, set_path, h.here]
  refine ⟨hpath, hoff, ?_⟩
  cases hset : kept.set key value store with
  | mk result last =>
      rw [hset] at hoff
      simp only [kept] at hset
      cases result with
      | ok _ =>
          have hopen := openAt_of_set hset
          rw [h.here] at hopen
          exact ⟨last, hopen, hoff⟩
      | error error =>
          -- the table has the new value and the file the old one, and the sound is off in both
          obtain ⟨contents, hread⟩ := h.file.readable
          exact h.file.of_read ((read_of_set_error hread hset).trans hread.symm)

theorem Muted.save (h : store.Muted path) (slot : Slot) (song : Song) :
    (slot.save song kept store).2.Muted path := by
  unfold Slot.save
  exact h.set fun hkey => absurd hkey slot.key_ne_settings.1

end DiskStore

/-! ## Calls -/

namespace Settings

def Call.switch? : Call → Option Bool
  | .enabled value _ => some value
  | .volume _ _ => none

theorem Call.make_enabled (call : Call) (settings : Settings) (store : Store κ) (kept : κ) :
    (call.make settings store kept).settings.enabled = call.switch?.getD settings.enabled := by
  cases call with
  | enabled value persisted =>
      simp only [make, setEnabled, switch?, Option.getD_some]
      split
      · assumption
      · rw [change_settings]
  | volume value persisted =>
      simp only [make, setVolume, switch?, Option.getD_none]
      split
      · rfl
      · rw [change_settings]

end Settings

namespace DiskStore

variable {path : String} {store : DiskStore}

theorem Muted.persist (h : store.Muted path) {settings : Settings}
    (hoff : settings.enabled = false) : (settings.persist kept store).2.Muted path := by
  have htext : settings.enabledText = Settings.enabledText ⟨false, 0⟩ := by
    rw [Settings.enabledText, hoff, Settings.enabledText]
  have hswitch : (kept.set Settings.enabledKey settings.enabledText store).2.Muted path :=
    h.set fun _ => htext
  unfold Settings.persist
  cases hset : kept.set Settings.enabledKey settings.enabledText store with
  | mk result last =>
      rw [hset] at hswitch
      cases result with
      | error error => exact hswitch
      | ok _ => exact hswitch.set fun hkey => absurd hkey (by decide)

theorem Muted.call (h : store.Muted path) {settings : Settings} {call : Settings.Call}
    (hoff : call.switch?.getD settings.enabled = false) :
    (call.make settings kept store).kept.Muted path := by
  rw [← call.make_enabled settings kept store] at hoff
  rcases call.make_cases settings kept store with hnothing | ⟨next, hchange⟩
  · rw [hnothing]
    exact h
  · rw [hchange] at hoff ⊢
    rw [Settings.change_settings] at hoff
    have hpersist := h.persist hoff
    unfold Settings.change
    split
    · split
      · rename_i hwrite
        rw [hwrite] at hpersist
        exact hpersist
      · rename_i hwrite
        rw [hwrite] at hpersist
        exact hpersist
    · exact h

/-! ## Calls that succeed -/

structure Agrees (path : String) (store : DiskStore) (settings : Settings) : Prop where
  file : openAt store.disk path = .ok store
  switch : settings.InStep kept store

theorem agrees_of_openAt {disk : Disk} (h : openAt disk path = .ok store) :
    store.Agrees path (Settings.load kept store) :=
  ⟨(openAt_disk h).symm ▸ h, rfl⟩

theorem openAt_of_persist {last : DiskStore} {settings : Settings}
    (h : settings.persist kept store = (.ok (), last)) :
    openAt last.disk store.path = .ok last := by
  unfold Settings.persist at h
  split at h
  · cases h
  · rename_i before hswitch
    simp only [kept] at h hswitch
    have hpath := set_path Settings.enabledKey settings.enabledText store
    rw [hswitch] at hpath
    rw [← hpath]
    exact openAt_of_set h

theorem Agrees.call {settings : Settings} (h : store.Agrees path settings) {call : Settings.Call}
    (hpersisted : call.persisted = true) {changed : Bool}
    (hresult : (call.make settings kept store).result = .ok changed) :
    (call.make settings kept store).kept.Agrees path (call.make settings kept store).settings := by
  rcases call.make_cases settings kept store with hnothing | ⟨next, hchange⟩
  · rw [hnothing]
    exact h
  · rw [hchange, hpersisted] at hresult ⊢
    have hswitch := Settings.persist_inStep kept_lawful next store
    simp only [Settings.change, if_true] at hresult ⊢
    cases hpersist : next.persist kept store with
    | mk result last =>
        rw [hpersist] at hresult hswitch
        cases result with
        | error error => cases hresult
        | ok _ =>
            have hfile := openAt_of_persist hpersist
            rw [openAt_path h.file] at hfile
            exact ⟨hfile, hswitch (.inl rfl)⟩

end DiskStore

end PulseTracker
