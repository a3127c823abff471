import PulseTracker.Proofs.Settings.Switch
import PulseTracker.Proofs.Song.Saved
import PulseTracker.Proofs.Store.WriteThrough

/-!
# Slots and settings as cells

The songs and the settings lie in one store, each under keys of its own, and a file store writes
all of them whenever one is set.  Every cell reads all the same as if it were alone: it has what
was last put there, and what was there before as long as nothing was.
-/

namespace PulseTracker

inductive CellWrite where
  | save (slot : Slot) (song : Song)
  | persist (settings : Settings)

namespace CellWrite

def perform (write : CellWrite) (store : Store κ) (kept : κ) : Except SoundError Unit × κ :=
  match write with
  | .save slot song => slot.save song store kept
  | .persist settings => settings.persist store kept

def keys : CellWrite → List String
  | .save slot _ => [slot.key]
  | .persist _ => [Settings.enabledKey, Settings.volumeKey]

def songIn? (slot : Slot) : CellWrite → Option Song
  | .save other song => if slot = other then some song else none
  | .persist _ => none

def settings? : CellWrite → Option Settings
  | .save _ _ => none
  | .persist settings => some settings

def text? (key : String) : CellWrite → Option String
  | .save slot song => if key = slot.key then some song.toText else none
  | .persist settings =>
      if key = Settings.volumeKey then some settings.volumeText
      else if key = Settings.enabledKey then some settings.enabledText
      else none

end CellWrite

/-! ## Keys -/

theorem Slot.key_eq_iff (slot other : Slot) : slot.key = other.key ↔ slot = other := by
  cases slot <;> cases other <;> decide

theorem Slot.key_ne_settings (slot : Slot) :
    slot.key ≠ Settings.enabledKey ∧ slot.key ≠ Settings.volumeKey := by
  cases slot <;> decide

namespace CellWrite

theorem text?_of_not_mem_keys {write : CellWrite} {key : String} (h : key ∉ write.keys) :
    write.text? key = none := by
  cases write with
  | save slot song =>
      simp only [keys, List.mem_singleton] at h
      exact if_neg h
  | persist settings =>
      simp only [keys, List.mem_cons, List.not_mem_nil, or_false, not_or] at h
      rw [text?, if_neg h.2, if_neg h.1]

theorem text?_slot (slot : Slot) :
    text? slot.key = Option.map Song.toText ∘ songIn? slot := by
  funext write
  cases write with
  | save other song =>
      simp only [text?, songIn?, Function.comp_apply, Slot.key_eq_iff]
      split
      · rfl
      · rfl
  | persist settings =>
      rw [text?, if_neg slot.key_ne_settings.2, if_neg slot.key_ne_settings.1]
      rfl

theorem text?_enabled :
    text? Settings.enabledKey = Option.map Settings.enabledText ∘ settings? := by
  funext write
  cases write with
  | save slot song => exact if_neg (Ne.symm slot.key_ne_settings.1)
  | persist settings =>
      rw [text?, if_neg (by decide), if_pos rfl]
      rfl

/-! ## One write -/

variable {store : Store κ}

theorem set_of_perform {write : CellWrite} {kept kept' : κ}
    (h : write.perform store kept = (.ok (), kept')) :
    ∃ key value before, store.set key value before = (.ok (), kept') := by
  cases write with
  | save slot song => exact ⟨slot.key, song.toText, kept, h⟩
  | persist settings =>
      simp only [perform, Settings.persist] at h
      split at h
      · cases h
      · rename_i before _
        exact ⟨Settings.volumeKey, settings.volumeText, before, h⟩

theorem get?_set (hstore : store.Lawful) {key value : String} {kept kept' : κ}
    (h : store.set key value kept = (.ok (), kept')) (other : String) :
    store.get? kept' other = if other = key then some value else store.get? kept other := by
  by_cases hkey : other = key
  · rw [if_pos hkey, hkey]
    exact hstore.givesBack h
  · rw [if_neg hkey, ← hstore.other key value kept hkey, h]

theorem get?_perform (hstore : store.Lawful) {write : CellWrite} {kept kept' : κ}
    (h : write.perform store kept = (.ok (), kept')) (key : String) :
    store.get? kept' key = (write.text? key).or (store.get? kept key) := by
  cases write with
  | save slot song =>
      rw [get?_set hstore h, text?]
      split
      · rfl
      · rfl
  | persist settings =>
      simp only [perform, Settings.persist] at h
      split at h
      · cases h
      · rename_i before hswitch
        rw [get?_set hstore h, get?_set hstore hswitch, text?]
        split
        · rfl
        · split
          · rfl
          · rfl

end CellWrite

/-! ## Many writes -/

/-- What becomes of a store by writes that all succeed, the last one first.  After each of them it
may be opened again, any number of times. -/
inductive Store.Story (store : Store κ) (reopens : κ → κ → Prop) (first : κ) :
    List CellWrite → κ → Prop where
  | start : store.Story reopens first [] first
  | write {writes kept kept'} (write : CellWrite) :
      store.Story reopens first writes kept → write.perform store kept = (.ok (), kept') →
      store.Story reopens first (write :: writes) kept'
  | reopen {write writes kept kept'} :
      store.Story reopens first (write :: writes) kept → reopens kept kept' →
      store.Story reopens first (write :: writes) kept'

def Store.Steady (store : Store κ) (reopens : κ → κ → Prop) : Prop :=
  ∀ {key value : String} {kept kept' again : κ}, store.set key value kept = (.ok (), kept') →
    reopens kept' again → again = kept'

namespace Store.Story

variable {store : Store κ} {reopens : κ → κ → Prop} {first last : κ} {writes : List CellWrite}

theorem last_set (hsteady : store.Steady reopens) (h : store.Story reopens first writes last)
    (hwrites : writes ≠ []) : ∃ key value before, store.set key value before = (.ok (), last) := by
  induction h with
  | start => exact absurd rfl hwrites
  | write write _ hperform _ => exact CellWrite.set_of_perform hperform
  | reopen _ hagain ih =>
      obtain ⟨key, value, before, hset⟩ := ih (List.cons_ne_nil _ _)
      obtain rfl := hsteady hset hagain
      exact ⟨key, value, before, hset⟩

theorem get?_eq (hstore : store.Lawful) (hsteady : store.Steady reopens)
    (h : store.Story reopens first writes last) (key : String) :
    store.get? last key = (writes.findSome? (CellWrite.text? key)).or (store.get? first key) := by
  induction h with
  | start => rfl
  | write write _ hperform ih =>
      rw [CellWrite.get?_perform hstore hperform, ih, List.findSome?_cons]
      cases write.text? key with
      | none => rfl
      | some text => rfl
  | reopen hbefore hagain ih =>
      obtain ⟨_, _, _, hset⟩ := hbefore.last_set hsteady (List.cons_ne_nil _ _)
      obtain rfl := hsteady hset hagain
      exact ih

end Store.Story

/-! ## Cells -/

structure Store.Cells (store : Store κ) (first : κ) (writes : List CellWrite) (last : κ) :
    Prop where
  songs : ∀ slot : Slot, slot.load store last =
    match writes.findSome? (CellWrite.songIn? slot) with
    | some song => some (Song.ofText song.toText)
    | none => slot.load store first
  switch : (Settings.load store last).enabled =
    match writes.findSome? CellWrite.settings? with
    | some settings => settings.enabled
    | none => (Settings.load store first).enabled
  others : ∀ key, (∀ write ∈ writes, key ∉ write.keys) →
    store.get? last key = store.get? first key

theorem Slot.load_congr {store : Store κ} {slot : Slot} {kept kept' : κ}
    (h : store.get? kept' slot.key = store.get? kept slot.key) :
    slot.load store kept' = slot.load store kept := by
  simp only [load, h]

theorem Slot.load_of_get {store : Store κ} {slot : Slot} {song : Song} {kept : κ}
    (h : store.get? kept slot.key = some song.toText) :
    slot.load store kept = some (Song.ofText song.toText) := by
  simp only [load, h, song.toText_isEmpty, Bool.false_eq_true, if_false]

theorem Store.Story.cells {store : Store κ} {reopens : κ → κ → Prop} {first last : κ}
    {writes : List CellWrite} (hstore : store.Lawful) (hsteady : store.Steady reopens)
    (h : store.Story reopens first writes last) : store.Cells first writes last where
  songs slot := by
    have hget := h.get?_eq hstore hsteady slot.key
    rw [CellWrite.text?_slot, ← List.map_findSome?] at hget
    cases hsong : writes.findSome? (CellWrite.songIn? slot) with
    | none =>
        rw [hsong] at hget
        exact Slot.load_congr hget
    | some song =>
        rw [hsong] at hget
        exact Slot.load_of_get hget
  switch := by
    have hget := h.get?_eq hstore hsteady Settings.enabledKey
    rw [CellWrite.text?_enabled, ← List.map_findSome?] at hget
    cases hsettings : writes.findSome? CellWrite.settings? with
    | none =>
        rw [hsettings] at hget
        exact Settings.load_enabled_congr hget
    | some settings =>
        rw [hsettings] at hget
        exact Settings.inStep_of_get hget
  others key hkey := by
    have hnone : writes.findSome? (CellWrite.text? key) = none := by
      rw [List.findSome?_eq_none_iff]
      intro write hmem
      exact CellWrite.text?_of_not_mem_keys (hkey write hmem)
    rw [h.get?_eq hstore hsteady key, hnone]
    rfl

/-! ## Stores -/

theorem tableStore_steady : tableStore.Steady fun _ _ => False :=
  fun _ hagain => hagain.elim

def DiskStore.Reopens (store again : DiskStore) : Prop := openAt store.disk store.path = .ok again

theorem DiskStore.reopens_of_set {key value : String} {store last : DiskStore}
    (h : kept.set key value store = (.ok (), last)) : last.Reopens last := by
  have hset : store.set key value = (.ok (), last) := h
  rw [Reopens, (set_ok hset).1]
  exact openAt_of_set hset

theorem DiskStore.kept_steady : kept.Steady Reopens := by
  intro key value store last again hset hagain
  have hfile : openAt last.disk last.path = .ok last := reopens_of_set hset
  have hsame : Except.ok last = Except.ok again := hfile.symm.trans hagain
  exact (Except.ok.inj hsame).symm

/--
Songs are saved and settings are kept, in any order and all with success.  Then every slot loads
what the song that was last saved there is after saving and loading, the switch is the one last
kept, and a key that none of the writes has is as it was, and so is a slot or a switch that was not
written.  This holds for a store in memory and for a file store, also when that is opened again
after any of the writes, which it always can be.
-/
theorem cells_are_independent (writes : List CellWrite) :
    (∀ first last : Table,
      tableStore.Story (fun _ _ => False) first writes last →
        tableStore.Cells first writes last) ∧
    ∀ first last : DiskStore,
      DiskStore.kept.Story DiskStore.Reopens first writes last →
        DiskStore.kept.Cells first writes last ∧
          (writes ≠ [] → ∃ again, last.Reopens again) := by
  constructor
  · intro first last h
    exact h.cells tableStore_lawful tableStore_steady
  · intro first last h
    refine ⟨h.cells DiskStore.kept_lawful DiskStore.kept_steady, ?_⟩
    intro hwrites
    obtain ⟨key, value, before, hset⟩ := h.last_set DiskStore.kept_steady hwrites
    exact ⟨last, DiskStore.reopens_of_set hset⟩

theorem DiskStore.set_of_write {store : DiskStore} {key value : String} {disk : Disk}
    (hparent : store.disk.makeParent store.path = (.ok (), store.disk))
    (hwrite : store.disk.write store.path (Toml.write (store.table.insert key value)).toUTF8 =
      .ok disk) :
    kept.set key value store =
      (.ok (), ⟨store.path, store.table.insert key value, disk⟩) := by
  simp only [kept, set, save, Disk.writeInto, hparent, hwrite]
  rfl

theorem DiskStore.set_here (store : DiskStore) (hpath : store.path = "s")
    (hfile : store.disk.at? ["s"] ≠ some .directory) (key value : String) :
    ∃ last, kept.set key value store = (.ok (), last) ∧ last.path = "s" ∧
      last.disk.at? ["s"] ≠ some .directory := by
  obtain ⟨path, table, disk⟩ := store
  obtain rfl : path = "s" := hpath
  have hread : Path.read "s" = .ok ⟨false, ["s"], false⟩ := rfl
  have hlocate : disk.locate ⟨false, ["s"], false⟩ = .ok ([], "s") := rfl
  have hwrite := Disk.write_put hread hlocate rfl rfl (by decide) hfile
    (Toml.write (table.insert key value)).toUTF8
  have hparent : disk.makeParent "s" = (.ok (), disk) := rfl
  refine ⟨_, set_of_write hparent hwrite, rfl, ?_⟩
  have hplace : Place.isOrigin ["s"] = false := rfl
  intro hdirectory
  exact absurd ((Disk.at?_put hplace).symm.trans hdirectory) (by rintro ⟨⟩)

theorem cells_are_independent_across_reopening :
    let first : Table := Table.empty.insert "title" ""
    let file : DiskStore := ⟨"s", first, .empty⟩
    let writes : List CellWrite :=
      [.save .second ⟨0, 200, true, default⟩, .persist ⟨false, 0.5⟩, .save .second default]
    ∃ (last : Table) (lastFile : DiskStore),
      tableStore.Story (fun _ _ => False) first writes last ∧
      DiskStore.kept.Story DiskStore.Reopens file writes lastFile ∧
      tableStore.Cells first writes last ∧ DiskStore.kept.Cells file writes lastFile ∧
      Slot.second.load DiskStore.kept lastFile =
        some (Song.ofText (Song.toText ⟨0, 200, true, default⟩)) ∧
      (Settings.load DiskStore.kept lastFile).enabled = false ∧
      DiskStore.kept.get? lastFile "title" = some "" ∧ ∃ again, lastFile.Reopens again := by
  intro first file writes
  have htable : tableStore.Story (fun _ _ => False) first writes _ :=
    .write _ (.write _ (.write _ .start rfl) rfl) rfl
  obtain ⟨saved, hsaved, hpath, hplace⟩ := DiskStore.set_here file rfl
    (by rintro ⟨⟩) Slot.second.key (default : Song).toText
  obtain ⟨turned, hturned, hpath, hplace⟩ := DiskStore.set_here saved hpath hplace
    Settings.enabledKey (Settings.enabledText ⟨false, 0.5⟩)
  obtain ⟨tuned, htuned, hpath, hplace⟩ := DiskStore.set_here turned hpath hplace
    Settings.volumeKey (Settings.volumeText ⟨false, 0.5⟩)
  obtain ⟨last, hlast, -, -⟩ := DiskStore.set_here tuned hpath hplace
    Slot.second.key (Song.toText ⟨0, 200, true, default⟩)
  have hpersist : (CellWrite.persist ⟨false, 0.5⟩).perform DiskStore.kept saved =
      (.ok (), tuned) := by
    simp only [CellWrite.perform, Settings.persist, hturned, htuned]
  have hfile : DiskStore.kept.Story DiskStore.Reopens file writes last :=
    .write _ (.write _ (.reopen (.write _ .start hsaved) (DiskStore.reopens_of_set hsaved))
      hpersist) hlast
  obtain ⟨hcells, hcellsFile⟩ := cells_are_independent writes
  obtain ⟨hreads, hagain⟩ := hcellsFile file last hfile
  exact ⟨_, last, htable, hfile, hcells first _ htable, hreads, hreads.songs .second,
    hreads.switch, hreads.others "title" (by decide), hagain (by simp [writes])⟩

end PulseTracker
