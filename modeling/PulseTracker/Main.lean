import PulseTracker.Cli.Run

/-!
# The program

The files that a command line can touch are read into a session, the command is
run, and what it changed is written back.  There is no sound system at this end,
so no device is ever found.
-/

namespace PulseTracker.Program

open Cli

def nodeAt (path : String) : IO (Option Node) := do
  try
    return some (.file (← IO.FS.readBinFile path))
  catch error =>
    match error with
    | .noFileOrDirectory .. => return none
    | _ => return some .directory

def pathText (path : Path) (names : List String) : String :=
  (if path.absolute then "/" else "") ++ "/".intercalate names

/-- Read what lies on the way along names, up to the first file.  What is missing may be made
later, so the way goes on behind it, and `..` leads back to what is there. -/
def snapshot (path : Path) : List String → List String → Place → Disk → IO Disk
  | [], _, _, disk => pure disk
  | name :: rest, walked, place, disk => do
      let walked :=
        if name = ".." && (disk.at? place).isNone then walked.dropLast else walked ++ [name]
      let place := place.step name
      let node ← nodeAt (pathText path walked)
      let disk := disk.put place node
      match node with
      | some (.file _) => pure disk
      | _ => snapshot path rest walked place disk

def touched (configDirectory : String) (invocation : Invocation) : List String :=
  storePath configDirectory invocation.store ::
    match invocation.command with
    | .render output _ _ _ _ => [output]
    | _ => []

/-- Make the directories along names that were made on the disk. -/
def makeNew (before after : Disk) (path : Path) : List String → List String → Place → IO Unit
  | [], _, _ => pure ()
  | name :: rest, walked, place => do
      let walked := walked ++ [name]
      let place := place.step name
      match before.at? place, after.at? place with
      | none, some .directory => IO.FS.createDirAll (pathText path walked)
      | _, _ => pure ()
      makeNew before after path rest walked place

/-- Write a file that differs from what it was, and make the directories on the way to it. -/
def writeBack (before after : Disk) (text : String) : IO Unit := do
  let path := Path.ofText text
  makeNew before after path path.names [] (.origin path)
  match after.read text with
  | .error _ => pure ()
  | .ok contents =>
      let same := match before.read text with
        | .ok old => old.data == contents.data
        | .error _ => false
      if !same then IO.FS.writeBinFile text contents

partial def inputLines (stream : IO.FS.Stream) : IO (List String) := do
  let line ← stream.getLine
  if line.isEmpty then return []
  return (Text.lines line.toList).map String.ofList ++ (← inputLines stream)

def readsInput (invocation : Invocation) : Bool :=
  match invocation.command with
  | .tone _ _ none _ => true
  | _ => false

def shown (verbose : Bool) (record : LogRecord) : Bool :=
  verbose || record.level = .warn || record.level = .error

/-- A directory as names can be put behind it. -/
def withoutSlash (directory : String) : String :=
  if directory.endsWith "/" then String.ofList directory.toList.dropLast else directory

/-- A directory that is configured counts only as an absolute path, and without one there is a
directory for this purpose at home. -/
def configDirectoryOf (configured home : Option String) : String :=
  match configured.filter (·.startsWith "/") with
  | some directory => withoutSlash directory
  | none =>
      match home.filter fun home => !home.isEmpty with
      | some home => withoutSlash home ++ "/.config"
      | none => "."

def configDirectory : IO String := do
  return configDirectoryOf (← IO.getEnv "XDG_CONFIG_HOME") (← IO.getEnv "HOME")

end PulseTracker.Program

open PulseTracker PulseTracker.Cli PulseTracker.Program in
def main (args : List String) : IO UInt32 := do
  let configDirectory ← configDirectory
  let invocation := (parse args).toOption
  let paths := (invocation.map (touched configDirectory)).getD []
  let mut disk := Disk.empty
  for text in paths do
    let path := Path.ofText text
    disk ← snapshot path (path.names.filter (· ≠ ".")) [] (.origin path) disk
  let input ←
    if (invocation.map readsInput).getD false then inputLines (← IO.getStdin) else pure []
  let (code, session) := run args
    { disk
      host := .silent
      configDirectory
      input
      output := ""
      notes := []
      streams := []
      log := [] }
  for text in paths do
    writeBack disk session.disk text
  IO.print session.output
  for record in session.log do
    if shown ((invocation.map (·.verbose)).getD false) record then
      IO.eprintln s!"[{record.level.label}] {record.target}: {record.message}"
  for note in session.notes do
    IO.eprintln note
  return code.toUInt32
