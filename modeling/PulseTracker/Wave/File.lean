import PulseTracker.Audio.Sink
import PulseTracker.Disk.Basic
import PulseTracker.Wave.Format

/-!
# Writing a wave file

The samples are collected by a sink; closing the file writes them.  A last frame
that is not complete is written as it is and reported.
-/

namespace PulseTracker

structure WaveTake where
  samples : Array Int16
  /-- Complete frames, counted write by write. -/
  frames : Nat
  deriving DecidableEq, Repr

structure WaveFile where
  path : String
  rate : UInt32
  channels : UInt16
  deriving DecidableEq, Repr

namespace WaveFile

/-- The sink of a wave file; nothing can fail before the file is closed. -/
def sink (file : WaveFile) : Sink WaveTake where
  rate := file.rate
  channels := file.channels
  write samples take :=
    (.ok (),
      { samples := take.samples ++ samples
        frames := take.frames + samples.size / file.channels.toNat })

def emptyTake : WaveTake := { samples := #[], frames := 0 }

/-- Begin a file.  A file that was there is emptied. -/
def create (disk : Disk) (path : String) (rate : UInt32) (channels : UInt16) :
    Except SoundError (WaveFile × Disk) :=
  match disk.write path ByteArray.empty with
  | .ok disk => .ok ({ path, rate, channels := max 1 channels }, disk)
  | .error error => .error (.wave (.file error))

def contents (file : WaveFile) (take : WaveTake) : ByteArray :=
  Wave.encode file.rate.toNat file.channels.toNat take.samples

def close (file : WaveFile) (take : WaveTake) (disk : Disk) : Except SoundError Unit × Disk :=
  match disk.write file.path (file.contents take) with
  | .error error => (.error (.wave (.file error)), disk)
  | .ok disk =>
      if take.samples.size % file.channels.toNat = 0 then (.ok (), disk)
      else (.error (.wave .unfinished), disk)

end WaveFile

end PulseTracker
