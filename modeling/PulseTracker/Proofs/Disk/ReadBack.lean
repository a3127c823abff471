import PulseTracker.Disk.Basic

/-!
# Reading a file that was written

Writing puts a file at one place, and no directory is lost, so the way to that place
is the same as before.
-/

namespace PulseTracker.Disk

variable {disk disk' : Disk} {target place : Place} {name : String} {node : Option Node}

/-! ## One place -/

theorem at?_put (htarget : target.isOrigin = false) :
    (disk.put target node).at? target = node := by
  simp [at?, put, htarget]

theorem at?_put_of_ne (h : place ≠ target) : (disk.put target node).at? place = disk.at? place := by
  simp [at?, put, h]

theorem isOrigin_of_not_directory (h : disk.at? target ≠ some .directory) :
    target.isOrigin = false := by
  cases horigin : target.isOrigin with
  | true => exact absurd (if_pos horigin) h
  | false => rfl

theorem find_ok {found : Node} (h : disk.find place name = .ok found) :
    disk.at? (place.step name) = some found := by
  unfold find at h
  split at h
  · cases h
  · cases hat : disk.at? (place.step name) with
    | none =>
        rw [hat] at h
        cases h
    | some node =>
        rw [hat] at h
        cases h
        rfl

theorem find_put_of_directory (htarget : disk.at? target ≠ some .directory)
    (h : disk.find place name = .ok .directory) :
    (disk.put target node).find place name = .ok .directory := by
  have hne : place.step name ≠ target := by
    intro heq
    rw [← heq] at htarget
    exact htarget (find_ok h)
  rw [← h]
  simp only [find, at?_put_of_ne hne]

/-! ## The way to a place -/

theorem enter_put (htarget : disk.at? target ≠ some .directory) {names : List String}
    {reached : Place} (h : disk.enter names place = .ok reached) :
    (disk.put target node).enter names place = .ok reached := by
  induction names generalizing place with
  | nil => exact h
  | cons name names ih =>
      unfold enter at h ⊢
      cases hfind : disk.find place name with
      | error error =>
          rw [hfind] at h
          cases h
      | ok found =>
          rw [hfind] at h
          cases found with
          | file contents => cases h
          | directory =>
              rw [find_put_of_directory htarget hfind]
              exact ih h

theorem locate_put (htarget : disk.at? target ≠ some .directory) {path : Path}
    {located : Place × String} (h : disk.locate path = .ok located) :
    (disk.put target node).locate path = .ok located := by
  unfold locate at h ⊢
  cases hlast : path.names.getLast? with
  | none =>
      rw [hlast] at h
      cases h
  | some name =>
      rw [hlast] at h
      cases henter : disk.enter path.names.dropLast (.origin path) with
      | error error =>
          rw [henter] at h
          cases h
      | ok reached =>
          rw [henter] at h
          rw [enter_put htarget henter]
          exact h

/-! ## Writing and reading -/

theorem find_not_directory (h : disk.find place name = .error .missing ∨
    ∃ contents, disk.find place name = .ok (.file contents)) :
    ¬ name.utf8ByteSize > Path.nameLimit ∧ disk.at? (place.step name) ≠ some .directory := by
  unfold find at h
  split at h
  · rcases h with h | ⟨contents, h⟩
    · cases h
    · cases h
  · rename_i hname
    refine ⟨hname, ?_⟩
    intro hat
    rw [hat] at h
    rcases h with h | ⟨contents, h⟩
    · cases h
    · cases h

theorem write_ok {text : String} {contents : ByteArray}
    (h : disk.write text contents = .ok disk') :
    ∃ path place name, Path.read text = .ok path ∧ disk.locate path = .ok (place, name) ∧
      path.slash = false ∧ isTurn name = false ∧ ¬ name.utf8ByteSize > Path.nameLimit ∧
      disk.at? (place.step name) ≠ some .directory ∧
      disk' = disk.put (place.step name) (some (.file contents)) := by
  unfold write at h
  cases hpath : Path.read text with
  | error error =>
      rw [hpath] at h
      cases h
  | ok path =>
      cases hlocate : disk.locate path with
      | error error =>
          simp only [hpath, hlocate, bind, Except.bind] at h
          cases h
      | ok located =>
          obtain ⟨place, name⟩ := located
          simp only [hpath, hlocate, bind, Except.bind] at h
          split at h
          · cases h
          · rename_i hfile
            simp only [Bool.or_eq_true, not_or, Bool.not_eq_true] at hfile
            split at h
            · cases h
            · rename_i old hfind
              cases h
              obtain ⟨hname, htarget⟩ := find_not_directory (Or.inr ⟨old, hfind⟩)
              exact ⟨path, place, name, rfl, hlocate, hfile.1, hfile.2, hname, htarget, rfl⟩
            · rename_i hfind
              cases h
              obtain ⟨hname, htarget⟩ := find_not_directory (Or.inl hfind)
              exact ⟨path, place, name, rfl, hlocate, hfile.1, hfile.2, hname, htarget, rfl⟩
            · cases h

theorem read_write {text : String} {contents : ByteArray}
    (h : disk.write text contents = .ok disk') : disk'.read text = .ok contents := by
  obtain ⟨path, place, name, hpath, hlocate, hslash, -, hname, htarget, rfl⟩ := write_ok h
  have hfind : (disk.put (place.step name) (some (.file contents))).find place name =
      .ok (.file contents) := by
    rw [find, if_neg hname, at?_put (isOrigin_of_not_directory htarget)]
  simp [read, hpath, locate_put htarget hlocate, hfind, hslash, bind, Except.bind]

theorem read_writeInto {text : String} {contents : ByteArray}
    (h : disk.writeInto text contents = (.ok (), disk')) : disk'.read text = .ok contents := by
  unfold writeInto at h
  split at h
  · cases h
  · split at h
    · cases h
    · rename_i hwrite
      cases h
      exact read_write hwrite

/-! ## Writing again -/

theorem put_put (disk : Disk) (target : Place) (first second : Option Node) :
    (disk.put target first).put target second = disk.put target second := by
  simp only [put, mk.injEq]
  funext size place
  by_cases hthere : (size = target.length && place = target) = true
  · rw [if_pos hthere, if_pos hthere]
  · rw [if_neg hthere, if_neg hthere, if_neg hthere]

theorem write_put {path : Path} {text : String} (hpath : Path.read text = .ok path)
    (hlocate : disk.locate path = .ok (place, name)) (hslash : path.slash = false)
    (hturn : isTurn name = false) (hname : ¬ name.utf8ByteSize > Path.nameLimit)
    (htarget : disk.at? (place.step name) ≠ some .directory) (contents : ByteArray) :
    disk.write text contents = .ok (disk.put (place.step name) (some (.file contents))) := by
  simp only [write, hpath, hlocate, hslash, hturn, bind, Except.bind, find, if_neg hname]
  cases hat : disk.at? (place.step name) with
  | none => rfl
  | some node =>
      cases node with
      | file old => rfl
      | directory => exact absurd hat htarget

/-- A file that could be written can be written again, and what it held in between leaves no
trace. -/
theorem write_write {text : String} {first : ByteArray}
    (h : disk.write text first = .ok disk') (second : ByteArray) :
    ∃ disk'', disk.write text second = .ok disk'' ∧ disk'.write text second = .ok disk'' := by
  obtain ⟨path, place, name, hpath, hlocate, hslash, hturn, hname, htarget, rfl⟩ := write_ok h
  have hfile : (disk.put (place.step name) (some (.file first))).at? (place.step name) ≠
      some .directory := by
    rw [at?_put (isOrigin_of_not_directory htarget)]
    rintro ⟨⟩
  refine ⟨_, write_put hpath hlocate hslash hturn hname htarget second, ?_⟩
  rw [write_put hpath (locate_put htarget hlocate) hslash hturn hname hfile second, put_put]

end PulseTracker.Disk
