import PulseTracker.Song.Stream

/-!
# Playing a song in the background

A thread of its own makes a sink and plays a song to it.  The owner can raise a
cancel flag at any moment, and can read the step that the thread published last.
Here the thread is a machine that does one thing at a time: it writes silence,
or looks at the flag and fills a chunk, or writes a chunk.  Whatever happens
between two steps of the machine is an interleaving of the owner with the thread.
-/

namespace PulseTracker

inductive SongStage where
  | prime
  | poll (remaining frames : Nat) (scratch : Scratch)
  /-- Write a chunk; `remaining` and `frames` already count it. -/
  | deliver (samples : Array Int16) (remaining frames : Nat) (scratch : Scratch)
  | tail (report : Report)
  | flush (report : Report)
  | done (result : Except SoundError Report)
  /-- The thread ended without a result. -/
  | crashed

/-- The thread, the sink it writes to, and what it has published. -/
structure SongWorker (ω : Type) where
  stage : SongStage
  stream : SongStream
  playhead : Option Nat
  out : ω
  log : List LogRecord

def playerTarget : String := "audio::player"

namespace SongWorker

def start (sink : Sink ω) (song : Song) (volume : Float32) (sine : Bool) (out : ω) :
    SongWorker ω :=
  let stream := SongStream.start sink.rate song sine
  { stage := .prime
    stream
    playhead := none
    out
    log :=
      [{ level := .debug
         target := playerTarget
         message := s!"playing {stream.total} samples at {sink.rate} Hz" },
       streamStartRecord sink stream.total volume] }

def fail (worker : SongWorker ω) (error : SoundError) : SongWorker ω :=
  { worker with
    stage := .done (.error error)
    log := worker.log ++
      [{ level := .error
         target := playerTarget
         message := s!"playback failed: {error.message}" }] }

def unmade (song : Song) (out : ω) : SongWorker ω :=
  { stage := .crashed
    stream := .start 1 song false
    playhead := none
    out
    log := [] }

def sinkFailed (song : Song) (error : SoundError) (out : ω) : SongWorker ω :=
  (unmade song out).fail error

def sinkCrashed (song : Song) (out : ω) : SongWorker ω := unmade song out

/-- Take the outcome of a write and go on to a stage if it succeeded; `worker` is the thread with
whatever the write left in its sink. -/
def afterWrite (worker : ω → SongWorker ω) (outcome : Except SoundError Unit × ω)
    (next : SongStage) : SongWorker ω :=
  match outcome with
  | (.error error, out) => (worker out).fail error
  | (.ok _, out) => { worker out with stage := next }

def fill (worker : SongWorker ω) (volume : Float32) (remaining frames : Nat)
    (scratch : Scratch) : SongWorker ω :=
  let chunk := SongStream.source.pull volume remaining scratch worker.stream
  let count := chunk.samples.size
  { worker with
    stream := chunk.source
    playhead := chunk.source.playhead.or worker.playhead
    stage :=
      if count = 0 then .tail ⟨frames, false⟩
      else .deliver chunk.samples (remaining - count) (frames + count) chunk.scratch }

/-- One step of the thread, under the flag as it stands. -/
def step (sink : Sink ω) (volume : Float32) (cancel : Bool) :
    SongWorker ω → SongWorker ω
  | ⟨stage, stream, playhead, out, log⟩ =>
      let worker (out : ω) : SongWorker ω := ⟨stage, stream, playhead, out, log⟩
      match stage with
      | .prime =>
          afterWrite worker (sink.writeSilence (paddingLength sink.rate) out)
            (.poll stream.total 0 .empty)
      | .poll remaining frames scratch =>
          if remaining = 0 then { worker out with stage := .tail ⟨frames, false⟩ }
          else if cancel then { worker out with stage := .tail ⟨frames, true⟩ }
          else (worker out).fill volume remaining frames scratch
      | .deliver samples remaining frames scratch =>
          afterWrite worker (sink.writeMono samples out) (.poll remaining frames scratch)
      | .tail report =>
          match sink.writeSilence (paddingLength sink.rate) out with
          | (.error error, out) => (worker out).fail error
          | (.ok _, out) =>
              { worker out with
                stage := .flush report
                log := log ++ [streamEndRecord report] }
      | .flush report => afterWrite worker (sink.flush out) (.done (.ok report))
      | .done _ => worker out
      | .crashed => worker out

def through (worker : SongWorker ω) : Bool :=
  match worker.stage with
  | .done _ => true
  | .crashed => true
  | _ => false

/-- Whether the thread said that it has ended; one that broke down never does. -/
def finished (worker : SongWorker ω) : Bool :=
  match worker.stage with
  | .done _ => true
  | _ => false

def writesNext (worker : SongWorker ω) : Bool :=
  match worker.stage with
  | .prime => true
  | .deliver _ _ _ _ => true
  | .tail _ => true
  | _ => false

def stepsLeft (worker : SongWorker ω) : Nat :=
  match worker.stage with
  | .prime => 4 + 2 * worker.stream.total
  | .poll remaining _ _ => 3 + 2 * remaining
  | .deliver _ remaining _ _ => 4 + 2 * remaining
  | .tail _ => 2
  | .flush _ => 1
  | .done _ => 0
  | .crashed => 0

theorem stepsLeft_afterWrite (worker : ω → SongWorker ω) (outcome : Except SoundError Unit × ω)
    (next : SongStage) (n : Nat) (pos : 0 < n)
    (h : ∀ out : ω, stepsLeft { worker out with stage := next } < n) :
    (afterWrite worker outcome next).stepsLeft < n := by
  unfold afterWrite
  split
  · exact pos
  · exact h _

/-- Every step of a thread that has not ended brings it closer to its end. -/
theorem stepsLeft_step (sink : Sink ω) (volume : Float32) (cancel : Bool)
    (worker : SongWorker ω) (h : worker.through = false) :
    (worker.step sink volume cancel).stepsLeft < worker.stepsLeft := by
  obtain ⟨stage, stream, playhead, out, log⟩ := worker
  cases stage with
  | prime =>
      refine stepsLeft_afterWrite _ _ _ _ ?_ fun _ => ?_
      · show 0 < 4 + _
        omega
      · show 3 + 2 * stream.total < 4 + 2 * stream.total
        omega
  | poll remaining frames scratch =>
      show stepsLeft (step sink volume cancel ⟨.poll remaining frames scratch, _, _, _, _⟩) <
        3 + 2 * remaining
      simp only [step]
      split
      · show 2 < 3 + 2 * remaining
        omega
      · split
        · show 2 < 3 + 2 * remaining
          omega
        · rename_i some _
          simp only [fill]
          split
          · show 2 < 3 + 2 * remaining
            omega
          · rename_i got
            show 4 + 2 * (remaining - _) < 3 + 2 * remaining
            omega
  | deliver samples remaining frames scratch =>
      refine stepsLeft_afterWrite _ _ _ _ ?_ fun _ => ?_
      · show 0 < 4 + 2 * remaining
        omega
      · show 3 + 2 * remaining < 4 + 2 * remaining
        omega
  | tail report =>
      show stepsLeft (step sink volume cancel ⟨.tail report, _, _, _, _⟩) < 2
      simp only [step]
      split
      · show 0 < 2
        omega
      · show 1 < 2
        omega
  | flush report =>
      refine stepsLeft_afterWrite _ _ _ _ ?_ fun _ => ?_
      · show 0 < 1
        omega
      · show 0 < 1
        omega
  | done result => cases h
  | crashed => cases h

/-- Run until the next write has returned, or until the thread has ended. -/
def advance (sink : Sink ω) (volume : Float32) (cancel : Bool) (worker : SongWorker ω) :
    SongWorker ω :=
  if h : worker.through then worker
  else
    have := worker.stepsLeft_step sink volume cancel (by simpa using h)
    if worker.writesNext then worker.step sink volume cancel
    else advance sink volume cancel (worker.step sink volume cancel)
termination_by worker.stepsLeft

/-- Let `count` writes return one after the other; a thread that has ended has no more. -/
def advanceBy (sink : Sink ω) (volume : Float32) (cancel : Bool) :
    Nat → SongWorker ω → SongWorker ω
  | 0, worker => worker
  | count + 1, worker =>
      if worker.through then worker
      else advanceBy sink volume cancel count (worker.advance sink volume cancel)

def finish (sink : Sink ω) (volume : Float32) (cancel : Bool) (worker : SongWorker ω) :
    SongWorker ω :=
  if h : worker.through then worker
  else
    have := worker.stepsLeft_step sink volume cancel (by simpa using h)
    finish sink volume cancel (worker.step sink volume cancel)
termination_by worker.stepsLeft

def result (worker : SongWorker ω) : Except SoundError Report :=
  match worker.stage with
  | .done result => result
  | _ => .error (.stream "playback thread panicked")

end SongWorker

end PulseTracker
