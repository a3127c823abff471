import PulseTracker.Disk.Basic
import PulseTracker.Log
import PulseTracker.Store.Basic
import PulseTracker.Toml.Reader
import PulseTracker.Toml.Writer

/-!
# Stores in a file

The table is read once and written through on every change.  A missing file is
an empty store, and so is a file that holds no table of strings; it is replaced
by the next change.  When writing fails, the table keeps the new value all the
same, and the next write that succeeds brings it to the file.
-/

namespace PulseTracker

structure DiskStore where
  path : String
  table : Table
  disk : Disk

inductive StoreContents where
  | readable (table : Table)
  /-- A text that describes no table. -/
  | malformed
  deriving DecidableEq

def StoreContents.ofText (text : String) : StoreContents :=
  match Toml.read? text with
  | some table => .readable table
  | none => .malformed

def StoreContents.start : StoreContents → Table
  | .readable table => table
  | .malformed => .empty

def Disk.readStore (disk : Disk) (path : String) : Except FileError StoreContents :=
  match disk.read path with
  | .error .missing => .ok (.readable .empty)
  | .error error => .error error
  | .ok contents =>
      match String.fromUTF8? contents with
      | some text => .ok (.ofText text)
      | none => .error .notText

namespace DiskStore

def openAt (disk : Disk) (path : String) : Except SoundError DiskStore :=
  match disk.readStore path with
  | .ok contents => .ok { path, table := contents.start, disk }
  | .error error => .error (.file error)

def save (store : DiskStore) : Except SoundError Unit × DiskStore :=
  let (result, disk) := store.disk.writeInto store.path (Toml.write store.table).toUTF8
  (result.mapError .file, { store with disk })

def set (key value : String) (store : DiskStore) : Except SoundError Unit × DiskStore :=
  save { store with table := store.table.insert key value }

def kept : Store DiskStore where
  get? store key := store.table.get? key
  set := set

end DiskStore

def storeTarget : String := "store"

def openRecords (disk : Disk) (path : String) : List LogRecord :=
  match disk.readStore path with
  | .error _ => []
  | .ok contents =>
      let warning : List LogRecord :=
        match contents with
        | .malformed =>
            [{ level := .warn
               target := storeTarget
               message := s!"ignoring malformed store {path}" }]
        | .readable _ => []
      warning ++
        [{ level := .debug
           target := storeTarget
           message := s!"opened {path} ({contents.start.size} keys)" }]

end PulseTracker
