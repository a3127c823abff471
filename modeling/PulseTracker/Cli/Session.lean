import PulseTracker.Audio.Sink
import PulseTracker.Cli.Failure
import PulseTracker.Device.Choice
import PulseTracker.Disk.Basic

/-!
# Sessions

Everything a command can see and change: the disk, the audio host, its input, and
what it has printed, played and reported so far.
-/

namespace PulseTracker.Cli

structure PlayedStream where
  config : StreamConfig
  samples : Array Int16
  deriving DecidableEq

/-- The sink of a stream whose device takes every sample in time. -/
def streamSink (config : StreamConfig) : Sink (Array Int16) where
  rate := config.rate
  channels := config.channels
  write samples played := (.ok (), played ++ samples)

structure Session where
  disk : Disk
  host : AudioHost
  configDirectory : String
  input : List String
  output : String
  notes : List String
  streams : List PlayedStream
  log : List LogRecord

abbrev Action := ExceptT Failure (StateM Session)

namespace Action

def print (line : String) : Action Unit :=
  modify fun session => { session with output := session.output ++ line ++ "\n" }

def note (line : String) : Action Unit :=
  modify fun session => { session with notes := session.notes ++ [line] }

def record (records : List LogRecord) : Action Unit :=
  modify fun session => { session with log := session.log ++ records }

def putDisk (disk : Disk) : Action Unit :=
  modify fun session => { session with disk }

def addStream (stream : PlayedStream) : Action Unit :=
  modify fun session => { session with streams := session.streams ++ [stream] }

def ofResult : Except SoundError α → Action α
  | .ok value => pure value
  | .error error => throw (.audio error)

end Action

end PulseTracker.Cli
