import Mathlib.Data.List.Induction
import Mathlib.Logic.Function.Iterate
import PulseTracker.Proofs.Audio.Delivery
import PulseTracker.Proofs.Audio.Requests
import PulseTracker.Proofs.Worker.Thread
import PulseTracker.Worker.Tone

/-!
# What a sidetone sends to its sink

The owner may write either cell between any two steps of the thread.  What the thread reads of
them is kept beside it, in the order in which it is read.
-/

namespace PulseTracker

namespace Sidetone

theorem extend_size (increment : Float32) (amplitude : Nat → Float32) (index count : Nat)
    (tone : Sidetone) (samples : Array Int16) :
    (extend increment amplitude index count tone samples).2.size = samples.size + count := by
  induction count generalizing index tone samples with
  | zero => rfl
  | succ count ih =>
      simp only [extend, ih, Array.size_push]
      omega

theorem render_size (tone : Sidetone) (frequency volume : Float32) (count : Nat) :
    (tone.render frequency volume count).2.size = count := by
  simp [render, extend_size]

def renderAll (tone : Sidetone) (loads : List (Float32 × Float32)) :
    Sidetone × List (Array Int16) :=
  loads.foldl
    (fun now load =>
      let (tone, chunk) := now.1.render load.1 load.2 chunkLength
      (tone, now.2 ++ [chunk]))
    (tone, [])

theorem renderAll_concat (tone : Sidetone) (loads : List (Float32 × Float32))
    (load : Float32 × Float32) :
    tone.renderAll (loads ++ [load]) =
      let now := tone.renderAll loads
      let next := now.1.render load.1 load.2 chunkLength
      (next.1, now.2 ++ [next.2]) := by
  simp only [renderAll, List.foldl_append, List.foldl_cons, List.foldl_nil]

end Sidetone

/-! ## The thread and its owner -/

inductive ToneMove where
  | setFrequency (frequency : Float32)
  | setVolume (volume : Float32)
  /-- A step of the thread. -/
  | work

namespace ToneWorker

def run (sink : Sink ω) : List ToneMove → ToneControls → ToneWorker ω → ToneWorker ω
  | [], controls, worker => worker.finish sink controls
  | .setFrequency frequency :: moves, controls, worker =>
      run sink moves (controls.setFrequency frequency) worker
  | .setVolume volume :: moves, controls, worker =>
      run sink moves (controls.setVolume volume) worker
  | .work :: moves, controls, worker => run sink moves controls (worker.step sink controls)

def withOut (worker : ToneWorker α) (out : ω) : ToneWorker ω :=
  ⟨worker.stage, worker.tone, worker.played, out, worker.log⟩

def made (worker : ToneWorker ω) : Sidetone × Array Int16 :=
  match worker.stage with
  | .deliver false frequency volume =>
      worker.tone.render frequency volume Sidetone.chunkLength
  | .deliver true frequency volume =>
      worker.tone.fadeOut frequency volume Sidetone.fadeLength
  | _ => (worker.tone, #[])

def request (width : Nat) (worker : ToneWorker ω) : Option SinkCall :=
  match worker.stage with
  | .deliver _ _ _ => some (monoCall width worker.made.2)
  | .tail => some (silentCall width Sidetone.tailLength)
  | .flush => some .flush
  | .poll | .readFrequency _ | .readVolume _ _ | .done _ | .crashed => none

theorem ended_of_stepsLeft {worker : ToneWorker ω} (h : worker.stepsLeft = 0) :
    worker.stage = .crashed ∨ ∃ result, worker.stage = .done result := by
  obtain ⟨stage, tone, played, out, log⟩ := worker
  cases stage with
  | crashed => exact Or.inl rfl
  | done result => exact Or.inr ⟨result, rfl⟩
  | poll | tail | flush => cases h
  | readFrequency fading | readVolume fading _ | deliver fading _ _ =>
      cases fading with
      | true | false => cases h

theorem afterWrite_keeps {P : ToneWorker ω → Prop} {worker : ω → ToneWorker ω}
    {outcome : Except SoundError Unit × ω} {count : Nat} {next : ToneStage}
    (hfail : ∀ error out, P ((worker out).fail error))
    (hnext : ∀ out, P { worker out with stage := next, played := (worker out).played + count }) :
    P (afterWrite worker outcome count next) := by
  obtain ⟨result, out⟩ := outcome
  cases result with
  | error error => exact hfail error out
  | ok _ => exact hnext out

theorem stepsLeft_step_stop (sink : Sink ω) (controls : ToneControls) (worker : ToneWorker ω) :
    (worker.step sink controls.stop).stepsLeft ≤ worker.stepsLeft - 1 := by
  obtain ⟨stage, tone, played, out, log⟩ := worker
  cases stage with
  | poll => simp [step, stepsLeft, ToneControls.stop]
  | readFrequency fading | readVolume fading _ =>
      cases fading with
      | true | false => simp [step, stepsLeft]
  | deliver fading frequency volume =>
      cases fading with
      | true | false =>
          exact afterWrite_keeps (P := fun worker => worker.stepsLeft ≤ _)
            (fun _ _ => Nat.zero_le _) fun _ => by simp [stepsLeft]
  | tail =>
      exact afterWrite_keeps (P := fun worker => worker.stepsLeft ≤ _)
        (fun _ _ => Nat.zero_le _) fun _ => by simp [stepsLeft]
  | flush =>
      simp only [step]
      split
      · exact Nat.zero_le _
      · simp [stepsLeft]
  | done _ | crashed => simp [step, stepsLeft]

theorem stepsLeft_iterate_stop (sink : Sink ω) (controls : ToneControls) (worker : ToneWorker ω)
    (count : Nat) :
    ((ToneWorker.step sink controls.stop)^[count] worker).stepsLeft ≤ worker.stepsLeft - count := by
  induction count with
  | zero => exact Nat.le_refl _
  | succ count ih =>
      rw [Function.iterate_succ_apply']
      have hstep := stepsLeft_step_stop sink controls
        ((ToneWorker.step sink controls.stop)^[count] worker)
      omega

theorem stepsLeft_le (worker : ToneWorker ω) : worker.stepsLeft ≤ 9 := by
  unfold stepsLeft
  split <;> omega

end ToneWorker

structure WatchedTone (ω : Type) where
  worker : ToneWorker ω
  pitches : List Float32
  volumes : List Float32

namespace WatchedTone

def start (sink : Sink ω) (out : ω) : WatchedTone ω := ⟨.start sink out, [], []⟩

def step (sink : Sink ω) (controls : ToneControls) (watched : WatchedTone ω) : WatchedTone ω where
  worker := watched.worker.step sink controls
  pitches :=
    match watched.worker.stage with
    | .readFrequency _ => watched.pitches ++ [controls.frequency]
    | _ => watched.pitches
  volumes :=
    match watched.worker.stage with
    | .readVolume _ _ => watched.volumes ++ [controls.volume]
    | _ => watched.volumes

def run (sink : Sink ω) : List ToneMove → ToneControls → WatchedTone ω → WatchedTone ω
  | [], controls, watched => (step sink controls.stop)^[watched.worker.stepsLeft] watched
  | .setFrequency frequency :: moves, controls, watched =>
      run sink moves (controls.setFrequency frequency) watched
  | .setVolume volume :: moves, controls, watched =>
      run sink moves (controls.setVolume volume) watched
  | .work :: moves, controls, watched => run sink moves controls (watched.step sink controls)

theorem iterate_worker (sink : Sink ω) (controls : ToneControls) (count : Nat)
    (watched : WatchedTone ω) :
    ((step sink controls)^[count] watched).worker =
      (ToneWorker.step sink controls)^[count] watched.worker := by
  induction count generalizing watched with
  | zero => rfl
  | succ count ih => exact ih (watched.step sink controls)

theorem step_of_stepsLeft (sink : Sink ω) (controls : ToneControls) {watched : WatchedTone ω}
    (h : watched.worker.stepsLeft = 0) : watched.step sink controls = watched := by
  obtain ⟨⟨stage, tone, played, out, log⟩, pitches, volumes⟩ := watched
  have hended : stage = .crashed ∨ ∃ result, stage = .done result :=
    ToneWorker.ended_of_stepsLeft h
  rcases hended with rfl | ⟨result, rfl⟩
  · rfl
  · rfl

/-- The cells as the thread finds them at each of its steps; nine steps are enough after the
stop. -/
def cells : List ToneMove → ToneControls → List ToneControls
  | [], controls => List.replicate 9 controls.stop
  | .setFrequency frequency :: moves, controls => cells moves (controls.setFrequency frequency)
  | .setVolume volume :: moves, controls => cells moves (controls.setVolume volume)
  | .work :: moves, controls => controls :: cells moves controls

theorem run_eq_foldl (sink : Sink ω) (moves : List ToneMove) (controls : ToneControls)
    (watched : WatchedTone ω) :
    watched.run sink moves controls =
      (cells moves controls).foldl (fun watched controls => watched.step sink controls)
        watched := by
  induction moves generalizing controls watched with
  | nil =>
      have hleft := ToneWorker.stepsLeft_iterate_stop sink controls watched.worker
        watched.worker.stepsLeft
      obtain ⟨more, hmore⟩ := Nat.exists_eq_add_of_le' watched.worker.stepsLeft_le
      rw [← iterate_worker, Nat.sub_self] at hleft
      have hfixed := step_of_stepsLeft sink controls.stop (Nat.le_zero.mp hleft)
      rw [run, cells, foldl_replicate, hmore, Function.iterate_add_apply]
      exact (Function.iterate_fixed hfixed more).symm
  | cons move moves ih =>
      cases move with
      | setFrequency _ | setVolume _ | work => exact ih _ _

def withOut (watched : WatchedTone α) (out : ω) : WatchedTone ω :=
  ⟨watched.worker.withOut out, watched.pitches, watched.volumes⟩

def thread (rate : UInt32) (channels : UInt16) : Thread ToneControls (WatchedTone Unit) where
  request watched := watched.worker.request (widthOf channels)
  advance controls watched := watched.step (Sink.mute rate channels) controls
  fail error watched :=
    { watched with worker := { watched.worker with tone := watched.worker.made.1 }.fail error }

theorem thread_endsInFailure (rate : UInt32) (channels : UInt16) :
    (thread rate channels).EndsInFailure where
  request _ _ := rfl
  advance _ _ _ := rfl

theorem step_withOut (sink : Sink ω) (controls : ToneControls) (watched : WatchedTone Unit)
    (out : ω) :
    (watched.withOut out).step sink controls =
      let now := (thread sink.rate sink.channels).step sink (watched, out) controls
      now.1.withOut now.2 := by
  obtain ⟨⟨stage, tone, played, _, log⟩, pitches, volumes⟩ := watched
  cases stage with
  | poll | readFrequency _ | readVolume _ _ | done _ | crashed => rfl
  | deliver fading frequency volume =>
      cases fading with
      | true | false =>
          simp only [step, withOut, ToneWorker.step, ToneWorker.withOut, Thread.step, thread,
            ToneWorker.request, ToneWorker.made, Sink.writeMono_eq, ToneWorker.afterWrite]
          cases sink.answer out (monoCall (widthOf sink.channels) _) with
          | error _ | ok _ => rfl
  | tail =>
      simp only [step, withOut, ToneWorker.step, ToneWorker.withOut, Thread.step, thread,
        ToneWorker.request, Sink.writeSilence_eq, ToneWorker.afterWrite]
      cases sink.answer out (silentCall (widthOf sink.channels) Sidetone.tailLength) with
      | error _ | ok _ => rfl
  | flush =>
      simp only [step, withOut, ToneWorker.step, ToneWorker.withOut, Thread.step, thread,
        ToneWorker.request, Sink.flush_eq]
      cases sink.answer out .flush with
      | error _ | ok _ => rfl

def chunkCalls (width : Nat) (first : Sidetone) (loads : List (Float32 × Float32)) :
    List SinkCall :=
  (first.renderAll loads).2.map (monoCall width)

def lastCalls (width : Nat) (tone : Sidetone) (last : Float32 × Float32) : List SinkCall :=
  [monoCall width (tone.fadeOut last.1 last.2 Sidetone.fadeLength).2,
    silentCall width Sidetone.tailLength, .flush]

inductive OnCourse (width : Nat) (first : Sidetone) : WatchedTone (List SinkCall) → Prop where
  | poll (loads log) :
      OnCourse width first
        ⟨⟨.poll, (first.renderAll loads).1, loads.length * Sidetone.chunkLength,
          chunkCalls width first loads, log⟩, loads.map Prod.fst, loads.map Prod.snd⟩
  | readFrequency (loads log fading) :
      OnCourse width first
        ⟨⟨.readFrequency fading, (first.renderAll loads).1, loads.length * Sidetone.chunkLength,
          chunkCalls width first loads, log⟩, loads.map Prod.fst, loads.map Prod.snd⟩
  | readVolume (loads log fading frequency) :
      OnCourse width first
        ⟨⟨.readVolume fading frequency, (first.renderAll loads).1,
          loads.length * Sidetone.chunkLength, chunkCalls width first loads, log⟩,
          loads.map Prod.fst ++ [frequency], loads.map Prod.snd⟩
  | deliver (loads log fading frequency volume) :
      OnCourse width first
        ⟨⟨.deliver fading frequency volume, (first.renderAll loads).1,
          loads.length * Sidetone.chunkLength, chunkCalls width first loads, log⟩,
          loads.map Prod.fst ++ [frequency], loads.map Prod.snd ++ [volume]⟩
  | tail (loads last log tone) :
      OnCourse width first
        ⟨⟨.tail, tone, loads.length * Sidetone.chunkLength,
          chunkCalls width first loads ++ (lastCalls width (first.renderAll loads).1 last).take 1,
          log⟩, loads.map Prod.fst ++ [last.1], loads.map Prod.snd ++ [last.2]⟩
  | flush (loads last log tone) :
      OnCourse width first
        ⟨⟨.flush, tone, loads.length * Sidetone.chunkLength,
          chunkCalls width first loads ++ (lastCalls width (first.renderAll loads).1 last).take 2,
          log⟩, loads.map Prod.fst ++ [last.1], loads.map Prod.snd ++ [last.2]⟩
  | done (loads last log tone) :
      OnCourse width first
        ⟨⟨.done (.ok (loads.length * Sidetone.chunkLength)), tone,
          loads.length * Sidetone.chunkLength,
          chunkCalls width first loads ++ lastCalls width (first.renderAll loads).1 last, log⟩,
          loads.map Prod.fst ++ [last.1], loads.map Prod.snd ++ [last.2]⟩

theorem OnCourse.step {first : Sidetone} {watched : WatchedTone (List SinkCall)} {rate : UInt32}
    {channels : UInt16} (h : OnCourse (widthOf channels) first watched)
    (controls : ToneControls) :
    OnCourse (widthOf channels) first (watched.step (Sink.recorder rate channels) controls) := by
  cases h with
  | poll loads log => exact .readFrequency loads log (!controls.running)
  | readFrequency loads log fading => exact .readVolume loads log fading controls.frequency
  | readVolume loads log fading frequency =>
      exact .deliver loads log fading frequency controls.volume
  | deliver loads log fading frequency volume =>
      cases fading with
      | true =>
          simp only [WatchedTone.step, ToneWorker.step, Sink.recorder_writeMono,
            ToneWorker.afterWrite, Nat.add_zero]
          exact .tail loads (frequency, volume) log _
      | false =>
          simp only [WatchedTone.step, ToneWorker.step, Sink.recorder_writeMono,
            ToneWorker.afterWrite]
          have hnext : OnCourse (widthOf channels) first _ :=
            .poll (loads ++ [(frequency, volume)]) log
          simpa [chunkCalls, Sidetone.renderAll_concat, Nat.succ_mul] using hnext
  | tail loads last log tone =>
      simp only [WatchedTone.step, ToneWorker.step, Sink.recorder_writeSilence,
        ToneWorker.afterWrite, Nat.add_zero, List.append_assoc]
      exact .flush loads last log tone
  | flush loads last log tone =>
      simp only [WatchedTone.step, ToneWorker.step, Sink.recorder_flush, List.append_assoc]
      exact .done loads last _ tone
  | done loads last log tone => exact .done loads last log tone

theorem OnCourse.run {first : Sidetone} {watched : WatchedTone (List SinkCall)} {rate : UInt32}
    {channels : UInt16} (h : OnCourse (widthOf channels) first watched) (moves : List ToneMove)
    (controls : ToneControls) :
    OnCourse (widthOf channels) first
      (watched.run (Sink.recorder rate channels) moves controls) := by
  rw [run_eq_foldl]
  generalize cells moves controls = inputs
  induction inputs generalizing watched with
  | nil => exact h
  | cons controls inputs ih => exact ih (h.step controls)

theorem OnCourse.ended {first : Sidetone} {watched : WatchedTone (List SinkCall)}
    (h : OnCourse width first watched) (hleft : watched.worker.stepsLeft = 0) :
    ∃ (loads : List (Float32 × Float32)) (last : Float32 × Float32),
      watched.pitches = (loads ++ [last]).map Prod.fst ∧
      watched.volumes = (loads ++ [last]).map Prod.snd ∧
      watched.worker.out =
        chunkCalls width first loads ++ lastCalls width (first.renderAll loads).1 last ∧
      watched.worker.result = .ok (loads.length * Sidetone.chunkLength) := by
  cases h with
  | poll _ _ | tail _ _ _ _ | flush _ _ _ _ => cases hleft
  | readFrequency _ _ fading | readVolume _ _ fading _ | deliver _ _ fading _ _ =>
      cases fading with
      | true | false => cases hleft
  | done loads last log tone =>
      exact ⟨loads, last, by simp, by simp, rfl, rfl⟩

end WatchedTone

end PulseTracker
