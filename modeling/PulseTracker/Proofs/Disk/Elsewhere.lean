import PulseTracker.Proofs.Disk.ReadBack

/-!
# A file beside one that is written

Names lead to one place whatever is on the disk, if they can be followed at all.  So a file that
can be read is as it was after a write to any other place, and after directories are made.
-/

namespace PulseTracker

def Path.place (path : Path) : Place := path.names.foldl Place.step (.origin path)

theorem Path.read_ok {text : String} {path : Path} (h : Path.read text = .ok path) :
    path = .ofText text := by
  unfold Path.read at h
  split at h
  · cases h
  · split at h
    · cases h
    · cases h
      rfl

namespace Disk

variable {disk disk' : Disk} {target place : Place} {text : String} {contents : ByteArray}

/-! ## Where names lead -/

theorem enter_ok {names : List String} {reached : Place}
    (h : disk.enter names place = .ok reached) : reached = names.foldl Place.step place := by
  induction names generalizing place with
  | nil =>
      cases h
      rfl
  | cons name names ih =>
      unfold enter at h
      split at h
      · exact ih h
      · cases h
      · cases h

theorem locate_ok {path : Path} {name : String} (h : disk.locate path = .ok (place, name)) :
    place.step name = path.place := by
  unfold locate at h
  cases hlast : path.names.getLast? with
  | none =>
      rw [hlast] at h
      cases h
  | some last =>
      cases henter : disk.enter path.names.dropLast (.origin path) with
      | error error =>
          rw [hlast, henter] at h
          cases h
      | ok reached =>
          rw [hlast, henter] at h
          cases h
          obtain ⟨names, hnames⟩ := List.getLast?_eq_some_iff.mp hlast
          rw [hnames, List.dropLast_concat] at henter
          rw [Path.place, hnames, List.foldl_append, ← enter_ok henter]
          rfl

/-! ## Reading after a change elsewhere -/

theorem read_ok (h : disk.read text = .ok contents) :
    ∃ path place name, Path.read text = .ok path ∧ disk.locate path = .ok (place, name) ∧
      disk.find place name = .ok (.file contents) ∧ path.slash = false := by
  unfold read at h
  cases hpath : Path.read text with
  | error error =>
      rw [hpath] at h
      cases h
  | ok path =>
      cases hlocate : disk.locate path with
      | error error =>
          simp only [hpath, hlocate, bind, Except.bind] at h
          cases h
      | ok located =>
          obtain ⟨place, name⟩ := located
          cases hfind : disk.find place name with
          | error error =>
              simp only [hpath, hlocate, hfind, bind, Except.bind] at h
              cases h
          | ok node =>
              simp only [hpath, hlocate, hfind, bind, Except.bind] at h
              cases node with
              | directory => cases h
              | file old =>
                  cases hslash : path.slash with
                  | true =>
                      rw [hslash] at h
                      cases h
                  | false =>
                      rw [hslash] at h
                      cases h
                      exact ⟨path, place, name, rfl, hlocate, hfind, hslash⟩

theorem at?_of_read (h : disk.read text = .ok contents) :
    disk.at? (Path.ofText text).place = some (.file contents) := by
  obtain ⟨path, place, name, hpath, hlocate, hfind, -⟩ := read_ok h
  rw [← Path.read_ok hpath, ← locate_ok hlocate]
  exact find_ok hfind

theorem read_put {node : Option Node} (h : disk.read text = .ok contents)
    (htarget : disk.at? target ≠ some .directory) (hother : target ≠ (Path.ofText text).place) :
    (disk.put target node).read text = .ok contents := by
  obtain ⟨path, place, name, hpath, hlocate, hfind, hslash⟩ := read_ok h
  have hplace : place.step name ≠ target := by
    rw [locate_ok hlocate, Path.read_ok hpath]
    exact hother.symm
  have hsame : (disk.put target node).find place name = .ok (.file contents) := by
    rw [← hfind]
    simp only [find, at?_put_of_ne hplace]
  simp [read, hpath, locate_put htarget hlocate, hsame, hslash, bind, Except.bind]

theorem read_write_elsewhere {other : String} {written : ByteArray}
    (h : disk.read text = .ok contents) (hwrite : disk.write other written = .ok disk')
    (hother : (Path.ofText other).place ≠ (Path.ofText text).place) :
    disk'.read text = .ok contents := by
  obtain ⟨path, place, name, hpath, hlocate, -, -, -, htarget, rfl⟩ := write_ok hwrite
  apply read_put h htarget
  rw [locate_ok hlocate, Path.read_ok hpath]
  exact hother

/-! ## Reading after a write that failed -/

theorem read_makeDirectories (made : Bool) (names : List String) (place : Place)
    (h : disk.read text = .ok contents) :
    (makeDirectories made names place disk).2.read text = .ok contents := by
  induction names generalizing made place disk with
  | nil => exact h
  | cons name names ih =>
      simp only [makeDirectories]
      split
      · exact ih made _ h
      · exact h
      · rename_i hfind
        have htarget := (find_not_directory (.inl hfind)).2
        have hplace : place.step name ≠ (Path.ofText text).place := by
          intro heq
          -- there is a file at the end of the path, so nothing is missing there
          have hthere := at?_of_read h
          rw [← heq] at hthere
          simp only [find, hthere] at hfind
          split at hfind <;> cases hfind
        exact ih true _ (read_put h htarget hplace)
      · exact h

theorem read_makeParent (other : String) (h : disk.read text = .ok contents) :
    (disk.makeParent other).2.read text = .ok contents := by
  unfold makeParent
  split
  · exact h
  · exact read_makeDirectories false _ _ h

/-- A write that fails may have made directories, but no file is lost. -/
theorem read_writeInto_error {other : String} {written : ByteArray} {error : FileError}
    (h : disk.read text = .ok contents)
    (hwrite : disk.writeInto other written = (.error error, disk')) :
    disk'.read text = .ok contents := by
  have hparent := read_makeParent other h
  unfold writeInto at hwrite
  split at hwrite
  · rename_i hmake
    cases hwrite
    rw [hmake] at hparent
    exact hparent
  · rename_i made hmake
    rw [hmake] at hparent
    split at hwrite
    · cases hwrite
      exact hparent
    · cases hwrite

end Disk

end PulseTracker
