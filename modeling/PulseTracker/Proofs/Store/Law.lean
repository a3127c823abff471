import PulseTracker.Store.File

/-!
# What a store gives back

A store keeps the last value of every key.  The keys do not disturb each other, and
when keeping a value fails, its key has the new value or the one from before.
-/

namespace PulseTracker

/-! ## Tables -/

theorem lookup_insertEntry (key value other : String) (entries : List (String × String)) :
    (insertEntry key value entries).lookup other =
      if other = key then some value else entries.lookup other := by
  induction entries with
  | nil =>
      by_cases heq : other = key
      · simp [insertEntry, heq]
      · simp [insertEntry, heq, List.lookup_cons, beq_false_of_ne heq]
  | cons head rest ih =>
      obtain ⟨k, v⟩ := head
      simp only [insertEntry]
      split
      · by_cases heq : other = key
        · simp [heq]
        · simp [heq, List.lookup_cons, beq_false_of_ne heq]
      · split
        · rename_i hsame
          subst hsame
          by_cases heq : other = key
          · simp [heq]
          · simp [heq, List.lookup_cons, beq_false_of_ne heq]
        · rename_i hdifferent
          by_cases hhead : other = k
          · subst hhead
            simp [Ne.symm hdifferent]
          · rw [List.lookup_cons, beq_false_of_ne hhead, ih, List.lookup_cons,
              beq_false_of_ne hhead]

theorem Table.get?_insert (table : Table) (key value other : String) :
    (table.insert key value).get? other =
      if other = key then some value else table.get? other :=
  lookup_insertEntry key value other table.entries

/-! ## Laws -/

def Store.GivesBack (store : Store κ) : Prop :=
  ∀ {key value : String} {kept kept' : κ}, store.set key value kept = (.ok (), kept') →
    store.get? kept' key = some value

structure Store.Lawful (store : Store κ) : Prop where
  givesBack : store.GivesBack
  /-- Also when keeping a value fails. -/
  other : ∀ (key value : String) (kept : κ) {other : String}, other ≠ key →
    store.get? (store.set key value kept).2 other = store.get? kept other
  old_or_new : ∀ (key value : String) (kept : κ),
    store.get? (store.set key value kept).2 key = some value ∨
      store.get? (store.set key value kept).2 key = store.get? kept key

theorem Store.lawful_of_table {store : Store κ} (table : κ → Table)
    (hget : ∀ kept key, store.get? kept key = (table kept).get? key)
    (hset : ∀ key value kept, table (store.set key value kept).2 =
      (table kept).insert key value) : store.Lawful where
  givesBack {key value kept kept'} h := by
    have htable := hset key value kept
    rw [h] at htable
    rw [hget, htable, Table.get?_insert, if_pos rfl]
  other key value kept other hne := by
    rw [hget, hget, hset, Table.get?_insert, if_neg hne]
  old_or_new key value kept := by
    rw [hget, hset, Table.get?_insert, if_pos rfl]
    exact Or.inl rfl

theorem tableStore_lawful : tableStore.Lawful :=
  Store.lawful_of_table id (fun _ _ => rfl) fun _ _ _ => rfl

theorem DiskStore.set_table (key value : String) (store : DiskStore) :
    (set key value store).2.table = store.table.insert key value := by
  simp only [set, save]

theorem DiskStore.kept_lawful : kept.Lawful := by
  apply Store.lawful_of_table DiskStore.table
  · intro store key
    rfl
  · intro key value store
    simp only [kept, set_table]

end PulseTracker
