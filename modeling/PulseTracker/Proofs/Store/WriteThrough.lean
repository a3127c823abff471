import PulseTracker.Proofs.Disk.ReadBack
import PulseTracker.Proofs.Store.Law
import PulseTracker.Proofs.Text.Bytes
import PulseTracker.Proofs.Toml.RoundTrip

/-!
# A file store and its file

Writes may fail, and the disk may change between them.  The table of an open store
has every value that was set all the same, so the next write that succeeds brings all
of them to the file, and the store that is opened there has the same values.
-/

namespace PulseTracker

/-! ## Reading what was written -/

theorem Disk.readStore_of_text {disk : Disk} {path text : String}
    (h : disk.read path = .ok text.toUTF8) : disk.readStore path = .ok (.ofText text) := by
  simp only [readStore, h, fromUTF8?_toUTF8]

theorem StoreContents.ofText_write (table : Table) :
    ofText (Toml.write table) = .readable table := by
  rw [ofText, Toml.read?_write]

namespace DiskStore

theorem openAt_of_text {disk : Disk} {path text : String}
    (h : disk.read path = .ok text.toUTF8) :
    openAt disk path = .ok ⟨path, (StoreContents.ofText text).start, disk⟩ := by
  simp only [openAt, Disk.readStore_of_text h]

theorem openAt_of_missing {disk : Disk} {path : String} (h : disk.read path = .error .missing) :
    openAt disk path = .ok ⟨path, .empty, disk⟩ := by
  simp only [openAt, Disk.readStore, h, StoreContents.start]

theorem set_path (key value : String) (store : DiskStore) :
    (set key value store).2.path = store.path := by
  simp only [set, save]

theorem set_ok {store last : DiskStore} {key value : String}
    (h : store.set key value = (.ok (), last)) :
    last.path = store.path ∧ last.disk.read store.path = .ok (Toml.write last.table).toUTF8 := by
  simp only [set, save, Prod.mk.injEq] at h
  obtain ⟨hresult, rfl⟩ := h
  cases hwrite : store.disk.writeInto store.path
      (Toml.write (store.table.insert key value)).toUTF8 with
  | mk result disk =>
      rw [hwrite] at hresult
      cases result with
      | error error => cases hresult
      | ok _ => exact ⟨rfl, Disk.read_writeInto hwrite⟩

theorem openAt_of_set {store last : DiskStore} {key value : String}
    (h : store.set key value = (.ok (), last)) : openAt last.disk store.path = .ok last := by
  obtain ⟨hpath, hread⟩ := set_ok h
  rw [openAt_of_text hread, StoreContents.ofText_write, StoreContents.start, ← hpath]

/-! ## Histories -/

inductive Event where
  | set (key value : String)
  /-- The disk is changed by others, or by a write that failed halfway. -/
  | change (disk : Disk)

def act (store : DiskStore) : Event → DiskStore
  | .set key value => (store.set key value).2
  | .change disk => { store with disk }

def run (store : DiskStore) (events : List Event) : DiskStore := events.foldl act store

def Event.value? (key : String) : Event → Option String
  | .set other value => if key = other then some value else none
  | .change _ => none

/-- The value that was last set for a key, whether it could be written or not. -/
def lastSet (key : String) : List Event → Option String
  | [] => none
  | event :: events => (lastSet key events).or (event.value? key)

theorem act_get? (store : DiskStore) (event : Event) (key : String) :
    kept.get? (store.act event) key = (event.value? key).or (kept.get? store key) := by
  cases event with
  | set other value =>
      simp only [kept, act, set_table, Table.get?_insert, Event.value?]
      split
      · rfl
      · rfl
  | change disk => rfl

theorem run_get? (store : DiskStore) (events : List Event) (key : String) :
    kept.get? (store.run events) key = (lastSet key events).or (kept.get? store key) := by
  induction events generalizing store with
  | nil => rfl
  | cons event events ih =>
      calc kept.get? (store.run (event :: events)) key
          = (lastSet key events).or (kept.get? (store.act event) key) := ih (store.act event)
        _ = (lastSet key (event :: events)).or (kept.get? store key) := by
          rw [act_get?, lastSet, Option.or_assoc]

theorem act_path (store : DiskStore) (event : Event) : (store.act event).path = store.path := by
  cases event with
  | set key value => simp only [act, set_path]
  | change disk => rfl

theorem run_path (store : DiskStore) (events : List Event) :
    (store.run events).path = store.path := by
  induction events generalizing store with
  | nil => rfl
  | cons event events ih =>
      calc (store.run (event :: events)).path
          = (store.act event).path := ih (store.act event)
        _ = store.path := act_path store event

theorem openAt_path {disk : Disk} {path : String} {store : DiskStore}
    (h : openAt disk path = .ok store) : store.path = path := by
  unfold openAt at h
  split at h
  · cases h
    rfl
  · cases h

/--
A store is opened where there is no file or where there is a text of any kind.  Whatever is set
then, and whichever of the writes fail, after a set that succeeds the store can be opened again
and has, for every key, what the open store has: the last value that was set, or else the first one.
-/
theorem openAt_after_set {disk : Disk} {path : String}
    (hfirst : disk.read path = .error .missing ∨ ∃ text : String,
      disk.read path = .ok text.toUTF8) :
    ∃ first, openAt disk path = .ok first ∧
      ∀ (events : List Event) (key value : String) (last : DiskStore),
        (first.run events).set key value = (.ok (), last) →
        ∃ fresh, openAt last.disk path = .ok fresh ∧ ∀ other,
          kept.get? fresh other = kept.get? last other ∧
          kept.get? last other =
            (lastSet other (events ++ [.set key value])).or (kept.get? first other) := by
  obtain ⟨first, hopen⟩ : ∃ first, openAt disk path = .ok first := by
    rcases hfirst with hmissing | ⟨text, htext⟩
    · exact ⟨_, openAt_of_missing hmissing⟩
    · exact ⟨_, openAt_of_text htext⟩
  refine ⟨first, hopen, ?_⟩
  intro events key value last hset
  have hpath : (first.run events).path = path := (run_path first events).trans (openAt_path hopen)
  have hfresh : openAt last.disk path = .ok last := hpath ▸ openAt_of_set hset
  have hlast : last = first.run (events ++ [.set key value]) := by
    rw [run, List.foldl_append]
    exact (congrArg Prod.snd hset).symm
  refine ⟨last, hfresh, ?_⟩
  intro other
  refine ⟨rfl, ?_⟩
  rw [hlast, run_get?]

theorem openAt_after_set_in_the_way :
    let first : DiskStore := ⟨"s", .empty, .empty⟩
    let blocked : Event := .change (Disk.empty.put ["s"] (some .directory))
    let events : List Event := [blocked, .set "" "\n", .change .empty]
    Disk.empty.read "s" = .error .missing ∧ openAt .empty "s" = .ok first ∧
      ((first.run [blocked]).set "" "\n").1 = .error (.file .isDirectory) ∧
      ∃ last fresh, (first.run events).set "b" "1" = (.ok (), last) ∧
        openAt last.disk "s" = .ok fresh ∧ kept.get? fresh "" = some "\n" := by
  have hmissing : Disk.empty.read "s" = .error .missing := rfl
  have hblocked : (set "" "\n" ⟨"s", .empty, Disk.empty.put ["s"] (some .directory)⟩).1 =
      .error (.file .isDirectory) := rfl
  have hfree : (set "b" "1" ⟨"s", Table.empty.insert "" "\n", .empty⟩).1 = .ok () := rfl
  intro first blocked events
  have hfirst : openAt .empty "s" = .ok first := rfl
  have hstore : first.run events = ⟨"s", Table.empty.insert "" "\n", .empty⟩ := by
    simp only [run, act, set, save, first, events, blocked, List.foldl_cons, List.foldl_nil]
  obtain ⟨_, hopen, hafter⟩ := openAt_after_set (Or.inl hmissing)
  rw [hfirst] at hopen
  cases hopen
  refine ⟨hmissing, hfirst, hblocked, ?_⟩
  cases hset : (first.run events).set "b" "1" with
  | mk result last =>
      rw [hstore] at hset
      rw [hset] at hfree
      obtain rfl : result = .ok () := hfree
      obtain ⟨fresh, hfresh, hget⟩ := hafter events "b" "1" last (by rw [hstore, hset])
      refine ⟨last, fresh, rfl, hfresh, ?_⟩
      rw [(hget "").1, (hget "").2]
      rfl

end DiskStore

end PulseTracker
