import PulseTracker.Cli.Help
import PulseTracker.Cli.Session
import PulseTracker.Decimal.Shortest
import PulseTracker.Settings
import PulseTracker.Wave.File
import PulseTracker.Worker.Tone

/-!
# Running commands

What each command does in a session.  A command line ends with an exit code: zero
for success, one for a failure, two for arguments that are no command.
-/

namespace PulseTracker.Cli

open PulseTracker.Cli.Action

/-! ## Stores and pieces -/

def storePath (configDirectory : String) (store : Option String) : String :=
  store.getD (configDirectory ++ "/chiptune/store.toml")

def openStore (path : String) : Action DiskStore := do
  let disk := (← get).disk
  record (openRecords disk path)
  ofResult (DiskStore.openAt disk path)

def loadSettings (store : DiskStore) : Action Settings := do
  record (Settings.loadRecords DiskStore.kept store)
  return Settings.load DiskStore.kept store

inductive Piece where
  | boot (sound : BootSound)
  | song (song : Song) (sine : Bool)

namespace Piece

def volume : Piece → Float32
  | .boot sound => sound.volume
  | .song _ _ => BootSound.songVolume

def description : Piece → String
  | .boot sound => s!"boot sound {sound.name}"
  | .song tune _ => s!"song at {tune.tempo} bpm"

end Piece

/-- The piece that a choice names.  A boot sound comes first, then a song text, then a slot;
without any of them it is the jingle. -/
def SongChoice.resolve (choice : SongChoice) (store : DiskStore) : Except Failure Piece :=
  match choice.preset, choice.song, choice.slot with
  | some sound, _, _ => .ok (.boot sound)
  | none, some text, _ => .ok (.song (.ofText text) choice.sine)
  | none, none, some slot =>
      match slot.load DiskStore.kept store with
      | some song => .ok (.song song choice.sine)
      | none => .error (.emptySlot slot)
  | none, none, none => .ok (.boot .jingle)

/-! ## Playing -/

def disabledNotice : String := "Sound is disabled (chiptune settings --enable)"

def openDevice (request : DeviceRequest) : Action StreamConfig := do
  let host := (← get).host
  record (openingRecords host request)
  ofResult (host.openStream request)

def playBoot (sound : BootSound) (store : DiskStore) (volume : Float32)
    (request : DeviceRequest) : Action Unit := do
  let config ← openDevice request
  let sink := streamSink config
  let (result, samples) := sound.play sink DiskStore.kept store volume #[]
  record (sound.records sink DiskStore.kept store volume result)
  addStream { config, samples }
  discard (ofResult result)

def playInBackground (song : Song) (sine : Bool) (volume : Float32)
    (request : DeviceRequest) : Action Unit := do
  let config ← openDevice request
  let sink := streamSink config
  let worker := (SongWorker.start sink song volume sine #[]).finish sink volume false
  record worker.log
  addStream { config, samples := worker.out }
  let report ← ofResult worker.result
  record
    [{ level := .debug
       target := playerTarget
       message := s!"{report.frames} frames played" }]

def play (path : String) (choice : SongChoice) (request : DeviceRequest)
    (volume : Option Float32) : Action Unit := do
  let store ← openStore path
  let piece ← ExceptT.mk (pure (choice.resolve store))
  let settings ← loadSettings store
  if !settings.enabled then print disabledNotice
  else
    let volume := settings.apply (volume.getD piece.volume)
    print s!"Playing {piece.description} (volume {Decimal.fixed 2 volume})"
    match piece with
    | .boot sound => playBoot sound store volume request
    | .song song sine => playInBackground song sine volume request

/-! ## The key tone -/

inductive ToneLine where
  | stop
  | unreadable (word : String)
  | retune (frequency : Float32) (volume : Option Float32)

def ToneLine.of (line : String) : ToneLine :=
  match Text.words line.toList with
  | [] => .stop
  | word :: rest =>
      match Decimal.readChars word with
      | none => .unreadable (String.ofList word)
      | some frequency => .retune frequency (rest.head?.bind Decimal.readChars)

/-- Follow the lines of the input until one says to stop; returns what was not readable and the
cells at the end.  A chunk is played for every line. -/
def followLines (sink : Sink ω) (settings : Settings) : List String → Float32 →
    ToneControls → ToneWorker ω → List String × ToneControls × ToneWorker ω
  | [], _, controls, worker => ([], controls, worker)
  | line :: rest, volume, controls, worker =>
      match ToneLine.of line with
      | .stop => ([], controls, worker)
      | .unreadable word =>
          let (words, controls, worker) := followLines sink settings rest volume controls worker
          (word :: words, controls, worker)
      | .retune frequency newVolume =>
          let volume := newVolume.getD volume
          let controls := controls.set frequency (settings.apply volume)
          followLines sink settings rest volume controls (worker.advance sink controls)

def chunksIn (milliseconds : Nat) (rate : UInt32) : Nat :=
  milliseconds * rate.toNat / 1000 / Sidetone.chunkLength

def silentSink : Sink (Array Int16) := streamSink { channels := 1, rate := 1, format := .i16 }

/-- The pitch and volume of a tone and what ends it. -/
def tone (path : String) (frequency volume : Float32) (milliseconds : Option Nat)
    (request : DeviceRequest) : Action Unit := do
  let store ← openStore path
  let settings ← loadSettings store
  if !settings.enabled then print disabledNotice
  else
    let host := (← get).host
    record (openingRecords host request)
    let opened := host.openStream request
    let controls := ToneControls.start frequency (settings.apply volume)
    let (sink, worker) :=
      match opened with
      | .ok config => (streamSink config, ToneWorker.start (streamSink config) #[])
      | .error error => (silentSink, ToneWorker.sinkFailed error #[])
    let (controls, worker) ←
      match milliseconds with
      | some milliseconds =>
          pure (controls, worker.advanceBy sink controls (chunksIn milliseconds sink.rate))
      | none => do
          print (s!"Sidetone at {Decimal.shortest frequency} Hz; " ++
            "\x60<hz> [volume]\x60 retunes, empty line stops")
          let (words, controls, worker) :=
            followLines sink settings (← get).input volume controls worker
          for word in words do
            note s!"not a frequency: {word}"
          pure (controls, worker)
    let worker := worker.finish sink controls
    record worker.log
    match opened with
    | .ok config => addStream { config, samples := worker.out }
    | .error _ => pure ()
    let frames ← ofResult worker.result
    record
      [{ level := .debug
         target := playerTarget
         message := s!"sidetone played {frames} frames" }]

/-! ## Files -/

/-- Write a piece to a wave file and say how many frames that took. -/
def renderPiece (store : DiskStore) (piece : Piece) (output : String) (rate : UInt32)
    (channels : UInt16) (volume : Option Float32) : Action Unit := do
  let volume := volume.getD piece.volume
  let (file, disk) ← ofResult (WaveFile.create (← get).disk output rate channels)
  putDisk disk
  let take ←
    match piece with
    | .boot sound => do
        let (result, take) := sound.play file.sink DiskStore.kept store volume WaveFile.emptyTake
        record (sound.records file.sink DiskStore.kept store volume result)
        discard (ofResult result)
        pure take
    | .song song sine => do
        let stream := SongStream.start rate song sine
        let outcome := stream.play file.sink volume neverCancelled WaveFile.emptyTake
        record (streamRecords file.sink stream.total volume outcome.result)
        discard (ofResult outcome.result)
        pure outcome.out
  let (result, disk) := file.close take (← get).disk
  putDisk disk
  ofResult result
  print s!"Wrote {take.frames} frames @ {rate} Hz to {output}"

def render (path output : String) (choice : SongChoice) (rate : UInt32) (channels : UInt16)
    (volume : Option Float32) : Action Unit := do
  let store ← openStore path
  let piece ← ExceptT.mk (pure (choice.resolve store))
  renderPiece store piece output rate channels volume

def save (path : String) (slot : Slot) (text : String) : Action Unit := do
  let store ← openStore path
  let song := Song.ofText text
  record [slot.saveRecord]
  let (result, store) := slot.save song DiskStore.kept store
  putDisk store.disk
  ofResult result
  print s!"{slot.key}: {song.toText}"

def listSongs (path : String) (slot : Option Slot) : Action Unit := do
  let store ← openStore path
  for slot in (slot.map fun slot => [slot]).getD Slot.all do
    match slot.load DiskStore.kept store with
    | some song => print s!"{slot.key}: {song.toText}"
    | none => print s!"{slot.key}: (empty)"

/-- Keep the store of a change and go on with the settings it left. -/
def applyChange (change : Settings.Change DiskStore) :
    Action (Settings × DiskStore) := do
  putDisk change.kept.disk
  discard (ofResult change.result)
  return (change.settings, change.kept)

def changeSettings (path : String) (enable disable : Bool) (volume : Option Float32) :
    Action Unit := do
  let store ← openStore path
  let settings ← loadSettings store
  let (settings, store) ←
    if enable || disable then applyChange (settings.setEnabled enable true DiskStore.kept store)
    else pure (settings, store)
  let (settings, _) ←
    match volume with
    | some volume => applyChange (settings.setVolume volume true DiskStore.kept store)
    | none => pure (settings, store)
  let switch := if settings.enabled then "on" else "off"
  print s!"sound: {switch}  volume: {settings.volumeText}"

def listDevices : Action Unit := do
  print "Available output devices:"
  match (← get).host.outputNames with
  | .ok names =>
      for name in names do
        print s!"- {name}"
  | .error error => throw (.audio error.toSoundError)

/-! ## Command lines -/

def runCommand (path : String) : Command → Action Unit
  | .devices => listDevices
  | .play choice device volume => play path choice device volume
  | .tone frequency volume milliseconds device => tone path frequency volume milliseconds device
  | .render output choice rate channels volume => render path output choice rate channels volume
  | .save slot song => save path slot song
  | .list slot => listSongs path slot
  | .settings enable disable volume => changeSettings path enable disable volume

def run (args : List String) (session : Session) : Nat × Session :=
  match parse args with
  | .error .usage => (2, session)
  | .error (.help command) =>
      (0, { session with output := session.output ++ helpText command })
  | .error .version => (0, { session with output := session.output ++ versionText })
  | .ok invocation =>
      let path := storePath session.configDirectory invocation.store
      match (runCommand path invocation.command).run.run session with
      | (.ok _, session) => (0, session)
      | (.error failure, session) =>
          (1, { session with notes := session.notes ++ [failure.report] })

end PulseTracker.Cli
