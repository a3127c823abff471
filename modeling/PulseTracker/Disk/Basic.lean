import PulseTracker.Audio.Error
import PulseTracker.Disk.Path

/-!
# The disk

Files and directories by place.  Reading and writing follow a path name by name,
and every name but the last has to be a directory.
-/

namespace PulseTracker

inductive Node where
  | file (contents : ByteArray)
  | directory

structure Disk where
  /-- What is at a place of a depth, so that a place is told apart at once from all that are not
  as deep. -/
  level : Nat → Place → Option Node

namespace Disk

def empty : Disk := ⟨fun _ _ => none⟩

/-- What is at a place; the places where paths begin are directories. -/
def at? (disk : Disk) (place : Place) : Option Node :=
  if place.isOrigin then some .directory else disk.level place.length place

def put (disk : Disk) (place : Place) (node : Option Node) : Disk :=
  let depth := place.length
  ⟨fun size other => if size = depth && other = place then node else disk.level size other⟩

def find (disk : Disk) (place : Place) (name : String) : Except FileError Node :=
  if name.utf8ByteSize > Path.nameLimit then .error .nameTooLong
  else
    match disk.at? (place.step name) with
    | some node => .ok node
    | none => .error .missing

def enter (disk : Disk) : List String → Place → Except FileError Place
  | [], place => .ok place
  | name :: rest, place =>
      match disk.find place name with
      | .ok .directory => disk.enter rest (place.step name)
      | .ok (.file _) => .error .notDirectory
      | .error error => .error error

/-- Whether a name stands for a directory that was entered before. -/
def isTurn (name : String) : Bool := name = "." || name = ".."

def locate (disk : Disk) (path : Path) : Except FileError (Place × String) :=
  match path.names.getLast? with
  | none => .error (if path.absolute then .isDirectory else .missing)
  | some name => (disk.enter path.names.dropLast (.origin path)).map fun place => (place, name)

def read (disk : Disk) (text : String) : Except FileError ByteArray := do
  let path ← Path.read text
  let (place, name) ← disk.locate path
  match ← disk.find place name with
  | .directory => .error .isDirectory
  | .file contents => if path.slash then .error .notDirectory else .ok contents

def write (disk : Disk) (text : String) (contents : ByteArray) : Except FileError Disk := do
  let path ← Path.read text
  let (place, name) ← disk.locate path
  if path.slash || isTurn name then .error .isDirectory
  else
    match disk.find place name with
    | .ok .directory => .error .isDirectory
    | .ok (.file _) | .error .missing => .ok (disk.put (place.step name) (some (.file contents)))
    | .error error => .error error

/-- Follow names and make the directories that are missing; those made before a failure stay.
A file stands in the place of the last directory, and of every one that follows a directory that
was `made`; anywhere else it is a name that has to be entered. -/
def makeDirectories (made : Bool) : List String → Place → Disk → Except FileError Unit × Disk
  | [], _, disk => (.ok (), disk)
  | name :: rest, place, disk =>
      let next := place.step name
      match disk.find place name with
      | .ok .directory => makeDirectories made rest next disk
      | .ok (.file _) =>
          (.error (if made || rest.isEmpty then .exists else .notDirectory), disk)
      | .error .missing => makeDirectories true rest next (disk.put next (some .directory))
      | .error error => (.error error, disk)

def makeParent (disk : Disk) (text : String) : Except FileError Unit × Disk :=
  match Path.read (Path.parentText text) with
  | .error error => (.error error, disk)
  | .ok path => makeDirectories false path.names (.origin path) disk

/-- Replace the bytes of a file, and make the directory it lies in first.  That directory stays
even when writing fails. -/
def writeInto (disk : Disk) (text : String) (contents : ByteArray) :
    Except FileError Unit × Disk :=
  match disk.makeParent text with
  | (.error error, disk) => (.error error, disk)
  | (.ok (), disk) =>
      match disk.write text contents with
      | .error error => (.error error, disk)
      | .ok disk => (.ok (), disk)

end Disk

end PulseTracker
