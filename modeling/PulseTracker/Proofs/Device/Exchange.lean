import Mathlib.Logic.Function.Iterate
import PulseTracker.Device.Output

/-!
# Writer and device at the same time

The writer and the callback of the device share the queue, the counter of pending
samples and the mark of an active session.  Here every access to what they share
is a step of its own, and the steps of the two sides may come in any order.  Left
alone, each side does in its steps what `Output.write` and `Output.pull` do at
once.
-/

namespace PulseTracker

theorem Output.size_upcoming {count : Nat} {output : Output} (h : count ≤ output.ahead) :
    (output.upcoming count).size = count := by
  unfold ahead at h
  rw [upcoming, Array.size_extract]
  omega

/-! ## Steps -/

inductive WriterStage where
  /-- Nothing; the last write, if any, has returned. -/
  | ready
  | activate (chunk : Array Int16)
  | announce (chunk : Array Int16)
  | send (chunk : Array Int16)
  | report
  | deactivate
  | reportLast
  | drain
  /-- Nothing; a flush has returned without an error. -/
  | flushed
  /-- Nothing; a call has returned an error. -/
  | failed (error : SoundError)
  deriving DecidableEq

/-- What the callback does next, for a buffer with room for `room` samples of which it has `got`. -/
inductive DeviceStage where
  /-- Nothing; the last callback has left its buffer like this, where `none` is silence. -/
  | idle (buffer : List (Option Int16))
  | fill (room : Nat) (got : List Int16)
  /-- Lower the counter by what was just copied. -/
  | count (room : Nat) (got : List Int16) (batch : Array Int16)
  /-- Fill the rest with silence. -/
  | quiet (room : Nat) (got : List Int16)
  deriving DecidableEq

structure Exchange where
  output : Output
  writer : WriterStage
  device : DeviceStage

inductive Exchange.Action where
  | write (chunk : Array Int16)
  | flush
  | writer
  /-- A flush has waited too long. -/
  | giveUp
  | callback (room : Nat)
  | device

def WriterStage.ofChunk (chunk : Array Int16) : WriterStage :=
  if chunk.isEmpty then .ready else .activate chunk

def WriterStage.atRest : WriterStage → Bool
  | .ready => true
  | .flushed => true
  | .failed _ => true
  | _ => false

def DeviceStage.atRest : DeviceStage → Bool
  | .idle _ => true
  | _ => false

namespace Exchange

def start : Exchange := { output := .start, writer := .ready, device := .idle [] }

/-- A chunk that finds the queue full waits, and so does a flush while samples are pending. -/
def writerStep (x : Exchange) : Exchange :=
  match x.writer with
  | .activate chunk => { x with output := x.output.activate, writer := .announce chunk }
  | .announce chunk =>
      { x with output := x.output.announce chunk.size, writer := .send chunk }
  | .send chunk =>
      match x.output.send chunk with
      | .sent output => { x with output, writer := .report }
      | .full => x
      | .refused => { x with writer := .failed .disconnected }
  | .report => { x with output := x.output.report, writer := .ready }
  | .deactivate => { x with output := x.output.deactivate, writer := .reportLast }
  | .reportLast => { x with output := x.output.report, writer := .drain }
  | .drain => if x.output.drained then { x with writer := .flushed } else x
  | _ => x

def deviceStep (x : Exchange) : Exchange :=
  match x.device with
  | .idle _ => x
  | .fill room got =>
      if room ≤ got.length then { x with device := .idle (got.map some) }
      else if x.output.ahead = 0 then
        match x.output.receive? with
        | some output => { x with output }
        | none => { x with device := .quiet room got }
      else
        let count := min x.output.ahead (room - got.length)
        { x with
          output := x.output.skip count
          device := .count room got (x.output.upcoming count) }
  | .count room got batch =>
      { x with
        output := x.output.settle batch.size
        device := .fill room (got ++ batch.toList) }
  | .quiet room got =>
      { x with
        output := x.output.runDry
        device := .idle (got.map some ++ List.replicate (room - got.length) none) }

/-- Calls follow one another, and so do callbacks: an action that would break in changes nothing.
The actions `writer` and `device` are the next step of each side. -/
def act (x : Exchange) : Action → Exchange
  | .write chunk => if x.writer.atRest then { x with writer := .ofChunk chunk } else x
  | .flush => if x.writer.atRest then { x with writer := .deactivate } else x
  | .writer => x.writerStep
  | .giveUp =>
      if x.writer = .drain then
        { x with writer := .failed (.stream "timed out draining output") }
      else x
  | .callback room => if x.device.atRest then { x with device := .fill room [] } else x
  | .device => x.deviceStep

def run (actions : List Action) (x : Exchange) : Exchange := actions.foldl act x

/-! ## One side alone -/

theorem writer_alone_resumes {x : Exchange} {chunk : Array Int16} (hsend : x.writer = .send chunk) :
    (writerStep^[2] x).output = (x.output.resume chunk).output := by
  rw [Function.iterate_succ_apply, Function.iterate_one]
  unfold Output.resume
  cases hsent : x.output.send chunk with
  | sent output => simp only [writerStep, hsend, hsent, Output.Writing.output]
  | full => simp only [writerStep, hsend, hsent, Output.Writing.output]
  | refused => simp only [writerStep, hsend, hsent, Output.Writing.output]

/-- With no step of the device in between, a write does what `Output.write` does. -/
theorem writer_alone_writes (x : Exchange) (hrest : x.writer.atRest) (chunk : Array Int16) :
    (writerStep^[4] (x.act (.write chunk))).output = (x.output.write chunk).output := by
  simp only [act, hrest, if_true]
  by_cases hempty : chunk.isEmpty
  · simp only [WriterStage.ofChunk, hempty, if_true, Output.write]
    rfl
  · simp only [WriterStage.ofChunk, hempty, Bool.false_eq_true, if_false, Output.write]
    have hannounced : writerStep^[2] { x with writer := .activate chunk } = { x with
        output := x.output.activate.announce chunk.size
        writer := .send chunk } := rfl
    rw [Function.iterate_add_apply writerStep 2 2, hannounced]
    exact writer_alone_resumes rfl

theorem writer_alone_begins_flush (x : Exchange) (hrest : x.writer.atRest) :
    (writerStep^[2] (x.act .flush)).output = x.output.beginFlush.2 := by
  simp only [act, hrest, if_true]
  rfl

end Exchange

def Output.Pulled.buffer (pulled : Pulled) : List (Option Int16) :=
  pulled.samples.toList.map some ++ List.replicate pulled.silence none

namespace Exchange

theorem deviceStep_pullFrom (room : Nat) (got : Array Int16) {whole : Nat} {output : Output}
    {x : Exchange} (hwhole : whole = got.size + room) (houtput : x.output = output)
    (hdevice : x.device = .fill whole got.toList) :
    ∃ steps, deviceStep^[steps] x =
      { x with
        output := (output.pullFrom room got).2
        device := .idle (output.pullFrom room got).1.buffer } := by
  -- A call of `pullFrom` is one step, but copying and counting are two, and so is running dry.
  fun_induction Output.pullFrom room got output generalizing x with
  | case1 got output =>
      have hstep : x.deviceStep = { x with device := .idle (Output.Pulled.buffer ⟨got, 0⟩) } := by
        rw [Nat.add_zero] at hwhole
        simp [deviceStep, hdevice, hwhole, Output.Pulled.buffer]
      refine ⟨1, ?_⟩
      rw [Function.iterate_one, hstep, ← houtput]
  | case2 room got output hroom hahead next hreceive ih =>
      have hmore : ¬ whole ≤ got.toList.length := by
        rw [Array.length_toList]
        omega
      have hstep : x.deviceStep = { x with output := next } := by
        simp only [deviceStep, hdevice, if_neg hmore, houtput, hahead, hreceive, if_true]
      obtain ⟨steps, hsteps⟩ := ih (x := { x with output := next }) hwhole rfl hdevice
      refine ⟨steps + 1, ?_⟩
      rw [Function.iterate_succ_apply, hstep, hsteps]
  | case3 room got output hroom hahead hreceive =>
      have hmore : ¬ whole ≤ got.toList.length := by
        rw [Array.length_toList]
        omega
      have hstep : x.deviceStep = { x with device := .quiet whole got.toList } := by
        simp only [deviceStep, hdevice, if_neg hmore, houtput, hahead, hreceive, if_true]
      have hleft : whole - got.size = room := by omega
      refine ⟨2, ?_⟩
      rw [Function.iterate_succ_apply, Function.iterate_one, hstep]
      simp [deviceStep, hleft, houtput, Output.Pulled.buffer]
  | case4 room got output hroom hahead count =>
      rename_i ih
      have hmore : ¬ whole ≤ got.toList.length := by
        rw [Array.length_toList]
        omega
      have hleft : whole - got.toList.length = room := by
        rw [Array.length_toList]
        omega
      have hcount : (output.upcoming count).size = count :=
        Output.size_upcoming (Nat.min_le_left _ _)
      have hcopy : x.deviceStep = { x with
          output := output.skip count
          device := .count whole got.toList (output.upcoming count) } := by
        simp only [deviceStep, hdevice, if_neg hmore, houtput, if_neg hahead, hleft]
        rfl
      have hgot : whole = (got ++ output.upcoming count).size + (room - count) := by
        rw [Array.size_append, hcount]
        omega
      have hnext : x.deviceStep.deviceStep = { x with
          output := (output.skip count).settle count
          device := .fill whole (got ++ output.upcoming count).toList } := by
        rw [hcopy]
        simp only [deviceStep, hcount, Array.toList_append]
      obtain ⟨steps, hsteps⟩ := ih (x := x.deviceStep.deviceStep) hgot (by rw [hnext])
        (by rw [hnext])
      refine ⟨steps + 2, ?_⟩
      rw [Function.iterate_add_apply]
      refine hsteps.trans ?_
      rw [hnext]

/-- With no step of the writer in between, a callback does what `Output.pull` does. -/
theorem device_alone_pulls (x : Exchange) (hrest : x.device.atRest) (room : Nat) :
    ∃ steps, deviceStep^[steps] (x.act (.callback room)) =
      { x with
        output := (x.output.pull room).2
        device := .idle (x.output.pull room).1.buffer } := by
  obtain ⟨steps, hsteps⟩ := deviceStep_pullFrom room #[]
    (x := { x with device := .fill room [] }) (Nat.zero_add room).symm rfl rfl
  refine ⟨steps, ?_⟩
  simp only [act, hrest, if_true]
  exact hsteps

end Exchange

end PulseTracker
