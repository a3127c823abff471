import PulseTracker.Tone.Sidetone
import PulseTracker.Worker.Song

/-!
# A sidetone in the background

A thread of its own sounds a tone until its owner stops it.  Pitch and volume are
two cells that the owner writes and the thread reads one after the other, before
every chunk and before the fade at the end.  The thread is a machine; each of its
steps touches at most one cell.
-/

namespace PulseTracker

structure ToneControls where
  frequency : Float32
  volume : Float32
  running : Bool
  deriving DecidableEq

namespace ToneControls

def usable (frequency : Float32) : Bool := frequency.isFinite && frequency ≥ 0

/-- The cells at the start; a pitch that cannot sound is replaced by the pitch of a key. -/
def start (frequency volume : Float32) : ToneControls :=
  { frequency := if usable frequency then frequency else Sidetone.keyPitch
    volume := unitVolume volume
    running := true }

def setFrequency (controls : ToneControls) (frequency : Float32) : ToneControls :=
  if usable frequency then { controls with frequency } else controls

def setVolume (controls : ToneControls) (volume : Float32) : ToneControls :=
  { controls with volume := unitVolume volume }

/-- Change the pitch and then the volume. -/
def set (controls : ToneControls) (frequency volume : Float32) : ToneControls :=
  (controls.setFrequency frequency).setVolume volume

def stop (controls : ToneControls) : ToneControls := { controls with running := false }

end ToneControls

/-- What the thread does next.  `fading` says whether the fade or a further chunk follows. -/
inductive ToneStage where
  | poll
  | readFrequency (fading : Bool)
  | readVolume (fading : Bool) (frequency : Float32)
  | deliver (fading : Bool) (frequency volume : Float32)
  | tail
  | flush
  | done (result : Except SoundError Nat)
  | crashed

structure ToneWorker (ω : Type) where
  stage : ToneStage
  tone : Sidetone
  played : Nat
  out : ω
  log : List LogRecord

namespace ToneWorker

def start (sink : Sink ω) (out : ω) : ToneWorker ω :=
  { stage := .poll
    tone := .start sink.rate
    played := 0
    out
    log :=
      [{ level := .debug
         target := playerTarget
         message := s!"sidetone start at {sink.rate} Hz" }] }

def fail (worker : ToneWorker ω) (error : SoundError) : ToneWorker ω :=
  { worker with
    stage := .done (.error error)
    log := worker.log ++
      [{ level := .error
         target := playerTarget
         message := s!"sidetone failed: {error.message}" }] }

def sinkCrashed (out : ω) : ToneWorker ω :=
  { stage := .crashed, tone := .start 1, played := 0, out, log := [] }

def sinkFailed (error : SoundError) (out : ω) : ToneWorker ω := (sinkCrashed out).fail error

/-- Take the outcome of a write and go on to a stage if it succeeded; `worker` is the thread with
whatever the write left in its sink. -/
def afterWrite (worker : ω → ToneWorker ω) (outcome : Except SoundError Unit × ω) (count : Nat)
    (next : ToneStage) : ToneWorker ω :=
  match outcome with
  | (.error error, out) => (worker out).fail error
  | (.ok _, out) =>
      { worker out with stage := next, played := (worker out).played + count }

def step (sink : Sink ω) (controls : ToneControls) : ToneWorker ω → ToneWorker ω
  | ⟨stage, tone, played, out, log⟩ =>
      let worker (tone : Sidetone) (out : ω) : ToneWorker ω := ⟨stage, tone, played, out, log⟩
      match stage with
      | .poll => { worker tone out with stage := .readFrequency (!controls.running) }
      | .readFrequency fading =>
          { worker tone out with stage := .readVolume fading controls.frequency }
      | .readVolume fading frequency =>
          { worker tone out with stage := .deliver fading frequency controls.volume }
      | .deliver false frequency volume =>
          let (tone, samples) := tone.render frequency volume Sidetone.chunkLength
          afterWrite (worker tone) (sink.writeMono samples out) Sidetone.chunkLength .poll
      | .deliver true frequency volume =>
          let (tone, samples) := tone.fadeOut frequency volume Sidetone.fadeLength
          afterWrite (worker tone) (sink.writeMono samples out) 0 .tail
      | .tail => afterWrite (worker tone) (sink.writeSilence Sidetone.tailLength out) 0 .flush
      | .flush =>
          match sink.flush out with
          | (.error error, out) => (worker tone out).fail error
          | (.ok _, out) =>
              { worker tone out with
                stage := .done (.ok played)
                log := log ++
                  [{ level := .debug
                     target := playerTarget
                     message := s!"sidetone stopped after {played} frames" }] }
      | .done _ => worker tone out
      | .crashed => worker tone out

def through (worker : ToneWorker ω) : Bool :=
  match worker.stage with
  | .done _ => true
  | .crashed => true
  | _ => false

def stepsToWrite (worker : ToneWorker ω) : Nat :=
  match worker.stage with
  | .poll => 3
  | .readFrequency _ => 2
  | .readVolume _ _ => 1
  | .flush => 1
  | _ => 0

def advance (sink : Sink ω) (controls : ToneControls) (worker : ToneWorker ω) : ToneWorker ω :=
  match worker.stepsToWrite with
  | 0 => worker.step sink controls
  | 1 => (worker.step sink controls).step sink controls
  | 2 => ((worker.step sink controls).step sink controls).step sink controls
  | _ => (((worker.step sink controls).step sink controls).step sink controls).step sink controls

/-- Let `count` writes return one after the other; a thread that has ended has no more. -/
def advanceBy (sink : Sink ω) (controls : ToneControls) : Nat → ToneWorker ω → ToneWorker ω
  | 0, worker => worker
  | count + 1, worker =>
      if worker.through then worker
      else advanceBy sink controls count (worker.advance sink controls)

def stepsLeft (worker : ToneWorker ω) : Nat :=
  match worker.stage with
  | .readFrequency false => 9
  | .readVolume false _ => 8
  | .deliver false _ _ => 7
  | .poll => 6
  | .readFrequency true => 5
  | .readVolume true _ => 4
  | .deliver true _ _ => 3
  | .tail => 2
  | .flush => 1
  | .done _ => 0
  | .crashed => 0

def steps (sink : Sink ω) (controls : ToneControls) : Nat → ToneWorker ω → ToneWorker ω
  | 0, worker => worker
  | count + 1, worker => steps sink controls count (worker.step sink controls)

def finish (sink : Sink ω) (controls : ToneControls) (worker : ToneWorker ω) : ToneWorker ω :=
  worker.steps sink controls.stop worker.stepsLeft

def result (worker : ToneWorker ω) : Except SoundError Nat :=
  match worker.stage with
  | .done result => result
  | _ => .error (.stream "sidetone thread panicked")

end ToneWorker

end PulseTracker
