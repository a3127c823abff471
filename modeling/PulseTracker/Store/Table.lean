/-!
# Tables of strings

Values by key, sorted by key.  Every key has one value.
-/

namespace PulseTracker

/-- Entries with one put where its key belongs; an entry of the same key is replaced. -/
def insertEntry (key value : String) : List (String × String) → List (String × String)
  | [] => [(key, value)]
  | (k, v) :: rest =>
      if key < k then (key, value) :: (k, v) :: rest
      else if key = k then (key, value) :: rest
      else (k, v) :: insertEntry key value rest

theorem mem_insertEntry {key value : String} {entries : List (String × String)}
    {entry : String × String} (h : entry ∈ insertEntry key value entries) :
    entry = (key, value) ∨ entry ∈ entries := by
  induction entries with
  | nil => simpa [insertEntry] using h
  | cons head rest ih =>
      obtain ⟨k, v⟩ := head
      simp only [insertEntry] at h
      split at h
      · simpa using h
      · split at h
        · simp only [List.mem_cons] at h ⊢
          exact h.imp_right .inr
        · simp only [List.mem_cons] at h ⊢
          rcases h with h | h
          · exact .inr (.inl h)
          · rcases ih h with h | h
            · exact .inl h
            · exact .inr (.inr h)

theorem pairwise_insertEntry {entries : List (String × String)} (key value : String)
    (sorted : entries.Pairwise fun a b => a.1 < b.1) :
    (insertEntry key value entries).Pairwise fun a b => a.1 < b.1 := by
  induction entries with
  | nil => simp [insertEntry]
  | cons head rest ih =>
      obtain ⟨k, v⟩ := head
      rw [List.pairwise_cons] at sorted
      simp only [insertEntry]
      split
      · rename_i below
        refine List.pairwise_cons.2 ⟨fun entry h => ?_, List.pairwise_cons.2 sorted⟩
        rcases List.mem_cons.1 h with h | h
        · rw [h]
          exact below
        · exact String.lt_trans below (sorted.1 entry h)
      · rename_i notBelow
        split
        · rename_i same
          subst same
          exact List.pairwise_cons.2 sorted
        · rename_i different
          refine List.pairwise_cons.2 ⟨fun entry h => ?_, ih sorted.2⟩
          rcases mem_insertEntry h with h | h
          · rw [h]
            show k < key
            exact String.not_le.1 fun le =>
              different (String.le_antisymm le (String.not_lt.1 notBelow))
          · exact sorted.1 entry h

structure Table where
  entries : List (String × String)
  sorted : entries.Pairwise fun a b => a.1 < b.1
  deriving DecidableEq, Repr

namespace Table

def empty : Table := ⟨[], .nil⟩

def get? (table : Table) (key : String) : Option String := table.entries.lookup key

def insert (table : Table) (key value : String) : Table :=
  ⟨insertEntry key value table.entries, pairwise_insertEntry key value table.sorted⟩

def size (table : Table) : Nat := table.entries.length

end Table

end PulseTracker
