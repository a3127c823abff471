import PulseTracker.Audio.Error
import PulseTracker.Device.Choice

/-!
# The queue to a device

A writer and a device share a short queue of chunks.  The writer announces a
chunk, then puts it into the queue, and waits while the queue is full.  The
device takes samples whenever it needs some; when the queue runs dry it plays
silence.  Each function up to `Output.report` is one action of one side, and the
two sides may do their actions in any order.
-/

namespace PulseTracker

def queueCapacity : Nat := 4

/-- What writer and device share, and how far the device is in its current chunk. -/
structure Output where
  /-- Waiting chunks, the next one first. -/
  queue : List (Array Int16)
  current : Array Int16
  position : Nat
  /-- Samples announced by the writer and not yet counted as played. -/
  pending : Nat
  /-- Whether running dry is a fault; it is none after the writer has finished. -/
  active : Bool
  /-- How often the queue ran dry while it should not. -/
  underruns : Nat
  reported : Nat
  attached : Bool
  deriving DecidableEq, Repr

namespace Output

def start : Output :=
  { queue := []
    current := #[]
    position := 0
    pending := 0
    active := false
    underruns := 0
    reported := 0
    attached := true }

/-! ## Actions of the writer -/

def activate (output : Output) : Output := { output with active := true }

def deactivate (output : Output) : Output := { output with active := false }

/-- Count a chunk before it is in the queue. -/
def announce (count : Nat) (output : Output) : Output :=
  { output with pending := output.pending + count }

inductive Sending where
  | sent (output : Output)
  | full
  | refused

def send (chunk : Array Int16) (output : Output) : Sending :=
  if !output.attached then .refused
  else if output.queue.length < queueCapacity then
    .sent { output with queue := output.queue ++ [chunk] }
  else .full

def drained (output : Output) : Bool := output.pending = 0

/-! ## Actions of the device -/

def ahead (output : Output) : Nat := output.current.size - output.position

def receive? (output : Output) : Option Output :=
  match output.queue with
  | chunk :: rest => some { output with queue := rest, current := chunk, position := 0 }
  | [] => none

def upcoming (count : Nat) (output : Output) : Array Int16 :=
  output.current.extract output.position (output.position + count)

def skip (count : Nat) (output : Output) : Output :=
  { output with position := output.position + count }

def settle (count : Nat) (output : Output) : Output :=
  { output with pending := output.pending - count }

def runDry (output : Output) : Output :=
  if output.active then { output with underruns := output.underruns + 1 } else output

/-- The device goes away, and what waits in the queue with it. -/
def detach (output : Output) : Output :=
  { output with queue := [], current := #[], position := 0, attached := false }

/-! ## Reports -/

def underrunRecords (output : Output) : List LogRecord :=
  if output.reported < output.underruns then
    [{ level := .warn
       target := deviceTarget
       message := s!"{output.underruns - output.reported} buffer underrun(s)" }]
  else []

def report (output : Output) : Output :=
  { output with reported := max output.reported output.underruns }

/-! ## Whole operations -/

inductive Writing where
  | ended (result : Except SoundError Unit) (records : List LogRecord) (output : Output)
  /-- The queue is full; the chunk is announced and waits. -/
  | waiting (output : Output)

/-- Put an announced chunk into the queue, if there is room. -/
def resume (chunk : Array Int16) (output : Output) : Writing :=
  match output.send chunk with
  | .sent output => .ended (.ok ()) output.underrunRecords output.report
  | .refused => .ended (.error .disconnected) [] output
  | .full => .waiting output

/-- Begin to write a chunk.  An empty one is nothing to do. -/
def write (chunk : Array Int16) (output : Output) : Writing :=
  if chunk.isEmpty then .ended (.ok ()) [] output
  else (output.activate.announce chunk.size).resume chunk

/-- Begin to wait until everything is played; running dry is no fault from here on. -/
def beginFlush (output : Output) : List LogRecord × Output :=
  let output := output.deactivate
  (output.underrunRecords, output.report)

structure Pulled where
  samples : Array Int16
  silence : Nat
  deriving DecidableEq, Repr

/-- Hand `room` samples to the device, after those it already got. -/
def pullFrom (room : Nat) (got : Array Int16) (output : Output) : Pulled × Output :=
  if room = 0 then (⟨got, 0⟩, output)
  else if output.ahead = 0 then
    match _h : output.receive? with
    | some next => pullFrom room got next
    | none => (⟨got, room⟩, output.runDry)
  else
    let count := min output.ahead room
    pullFrom (room - count) (got ++ output.upcoming count) ((output.skip count).settle count)
termination_by room + output.queue.length
decreasing_by
  · have shorter : next.queue.length < output.queue.length := by
      unfold receive? at _h
      split at _h
      · rename_i same
        cases _h
        simp [same]
      · cases _h
    omega
  · show room - min output.ahead room + output.queue.length < room + output.queue.length
    omega

def pull (room : Nat) (output : Output) : Pulled × Output := pullFrom room #[] output

def Writing.output : Writing → Output
  | .ended _ _ output => output
  | .waiting output => output

def Writing.resumeOn (chunk : Array Int16) (writing : Writing) (output : Output) : Writing :=
  match writing with
  | .ended result records _ => .ended result records output
  | .waiting _ => output.resume chunk

/-- The device asks for samples while a chunk is being written; a write that waits goes on as
soon as there is room. -/
def pullDuring (chunk : Array Int16) : List Nat → Writing → List Pulled × Writing
  | [], writing => ([], writing)
  | room :: rest, writing =>
      let (pulled, output) := writing.output.pull room
      let (more, writing) := pullDuring chunk rest (writing.resumeOn chunk output)
      (pulled :: more, writing)

def Pulled.toArray (pulled : Pulled) : Array Int16 :=
  pulled.samples ++ Array.replicate pulled.silence 0

end Output

def streamErrorRecord (error : HostError) : LogRecord :=
  { level := .error
    target := deviceTarget
    message := s!"stream error: {error.message}" }

end PulseTracker
