import PulseTracker.Proofs.Audio.Cuts
import PulseTracker.Proofs.Audio.Requests
import PulseTracker.Proofs.Worker.Stop
import PulseTracker.Proofs.Worker.Thread

/-!
# The first failure of a sink ends everything
-/

namespace PulseTracker

/-! ## The song thread -/

namespace SongWorker

def withOut (worker : SongWorker α) (out : ω) : SongWorker ω :=
  ⟨worker.stage, worker.stream, worker.playhead, out, worker.log⟩

def request (rate : UInt32) (width : Nat) (worker : SongWorker ω) : Option SinkCall :=
  match worker.stage with
  | .prime | .tail _ => some (silentCall width (paddingLength rate))
  | .deliver samples _ _ _ => some (monoCall width samples)
  | .flush _ => some .flush
  | .poll _ _ _ | .done _ | .crashed => none

def thread (rate : UInt32) (channels : UInt16) (volume : Float32) :
    Thread Bool (SongWorker Unit) where
  request := request rate (widthOf channels)
  advance cancel worker := worker.step (Sink.mute rate channels) volume cancel
  fail error worker := worker.fail error

theorem thread_endsInFailure (rate : UInt32) (channels : UInt16) (volume : Float32) :
    (thread rate channels volume).EndsInFailure where
  request _ _ := rfl
  advance _ _ _ := rfl

theorem step_withOut (sink : Sink ω) (volume : Float32) (cancel : Bool)
    (worker : SongWorker Unit) (out : ω) :
    (worker.withOut out).step sink volume cancel =
      let now := (thread sink.rate sink.channels volume).step sink (worker, out) cancel
      now.1.withOut now.2 := by
  obtain ⟨stage, stream, playhead, _, log⟩ := worker
  cases stage with
  | prime =>
      simp only [step, withOut, Thread.step, thread, request, Sink.writeSilence_eq, afterWrite]
      cases sink.answer out (silentCall (widthOf sink.channels) (paddingLength sink.rate)) with
      | error _ | ok _ => rfl
  | poll remaining frames scratch =>
      simp only [step, withOut, Thread.step, thread, request]
      by_cases hremaining : remaining = 0
      · simp only [if_pos hremaining]
      · simp only [if_neg hremaining]
        cases cancel with
        | true | false => rfl
  | deliver samples remaining frames scratch =>
      simp only [step, withOut, Thread.step, thread, request, Sink.writeMono_eq, afterWrite]
      cases sink.answer out (monoCall (widthOf sink.channels) samples) with
      | error _ | ok _ => rfl
  | tail report =>
      simp only [step, withOut, Thread.step, thread, request, Sink.writeSilence_eq]
      cases sink.answer out (silentCall (widthOf sink.channels) (paddingLength sink.rate)) with
      | error _ | ok _ => rfl
  | flush report =>
      simp only [step, withOut, Thread.step, thread, request, Sink.flush_eq, afterWrite]
      cases sink.answer out .flush with
      | error _ | ok _ => rfl
  | done result => rfl
  | crashed => rfl

theorem step_of_through {sink : Sink ω} {volume : Float32} {cancel : Bool}
    {worker : SongWorker ω} (h : worker.through) : worker.step sink volume cancel = worker := by
  obtain ⟨stage, stream, playhead, out, log⟩ := worker
  cases stage with
  | done _ | crashed => rfl
  | prime | poll _ _ _ | deliver _ _ _ _ | tail _ | flush _ => cases h

theorem through_of_stepsLeft {worker : SongWorker ω} (h : worker.stepsLeft = 0) :
    worker.through := by
  obtain ⟨stage, stream, playhead, out, log⟩ := worker
  cases stage with
  | done _ | crashed => rfl
  | prime | poll _ _ _ | deliver _ _ _ _ =>
      simp only [stepsLeft] at h
      omega
  | tail _ | flush _ => cases h

def runUnder (sink : Sink ω) (volume : Float32) (flags : List Bool) (worker : SongWorker ω) :
    SongWorker ω :=
  flags.foldl (fun worker cancel => worker.step sink volume cancel) worker

theorem runUnder_append (sink : Sink ω) (volume : Float32) (first second : List Bool)
    (worker : SongWorker ω) :
    worker.runUnder sink volume (first ++ second) =
      (worker.runUnder sink volume first).runUnder sink volume second :=
  List.foldl_append

theorem runUnder_replicate (sink : Sink ω) (volume : Float32) (cancel : Bool) (steps : Nat)
    (worker : SongWorker ω) :
    worker.runUnder sink volume (List.replicate steps cancel) =
      (SongWorker.step sink volume cancel)^[steps] worker :=
  foldl_replicate _ cancel steps worker

theorem stepsLeft_runUnder_le (sink : Sink ω) (volume : Float32) (flags : List Bool)
    (worker : SongWorker ω) :
    (worker.runUnder sink volume flags).stepsLeft ≤ worker.stepsLeft := by
  induction flags generalizing worker with
  | nil => exact Nat.le_refl _
  | cons cancel flags ih =>
      refine Nat.le_trans (ih _) ?_
      show (worker.step sink volume cancel).stepsLeft ≤ worker.stepsLeft
      cases hthrough : worker.through with
      | true => exact Nat.le_of_eq (congrArg stepsLeft (step_of_through hthrough))
      | false => exact Nat.le_of_lt (worker.stepsLeft_step sink volume cancel hthrough)

theorem finish_eq_runUnder (sink : Sink ω) (volume : Float32) (cancel : Bool) (steps : Nat)
    {worker : SongWorker ω} (h : worker.stepsLeft ≤ steps) :
    worker.finish sink volume cancel =
      worker.runUnder sink volume (List.replicate steps cancel) := by
  induction steps generalizing worker with
  | zero =>
      rw [finish, dif_pos (through_of_stepsLeft (Nat.le_zero.mp h))]
      rfl
  | succ steps ih =>
      rw [finish]
      by_cases hthrough : worker.through
      · rw [dif_pos hthrough, runUnder_replicate,
          Function.iterate_fixed (step_of_through hthrough)]
      · have hless := worker.stepsLeft_step sink volume cancel (by simpa using hthrough)
        rw [dif_neg hthrough, ih (by omega)]
        rfl

/-- The flags of a run at whose end the thread is through: the flag is raised after so many steps,
and the owner waits. -/
def flagsOfStop (steps last : Nat) : List Bool :=
  List.replicate steps false ++ List.replicate last true

theorem stopAfter_eq_runUnder (sink : Sink ω) (volume : Float32) (steps : Nat)
    (worker : SongWorker ω) :
    worker.stopAfter sink volume steps =
      worker.runUnder sink volume (flagsOfStop steps worker.stepsLeft) := by
  rw [stopAfter, flagsOfStop, runUnder_append, runUnder_replicate sink volume false]
  apply finish_eq_runUnder
  rw [← runUnder_replicate]
  exact stepsLeft_runUnder_le sink volume _ worker

theorem runUnder_withOut (sink : Sink ω) (volume : Float32) (flags : List Bool)
    (worker : SongWorker Unit) (out : ω) :
    (worker.withOut out).runUnder sink volume flags =
      let now := (thread sink.rate sink.channels volume).run sink flags (worker, out)
      now.1.withOut now.2 :=
  (thread sink.rate sink.channels volume).foldl_joined sink (fun now => now.1.withOut now.2)
    (fun now cancel => step_withOut sink volume cancel now.1 now.2) flags (worker, out)

def outcome (worker : SongWorker ω) : Outcome Report SongStream ω :=
  ⟨worker.result, worker.stream, worker.out⟩

/-- The stream of a thread when it makes the call of that number, of those that it makes while
nothing fails. -/
def streamAt (song : Song) (volume : Float32) (sine : Bool) (flags : UInt32 → List Bool)
    (rate : UInt32) (channels : UInt16) (number : Nat) : Option SongStream :=
  (((thread rate channels volume).script (flags rate)
    (start (Sink.mute rate channels) song volume sine ())).sourceAt number).map SongWorker.stream

theorem runUnder_stopsAtFailure (song : Song) (volume : Float32) (sine : Bool)
    (flags : UInt32 → List Bool) :
    StopsAtFailure
      (fun _ sink out =>
        ((start sink song volume sine out).runUnder sink volume (flags sink.rate)).outcome)
      (streamAt song volume sine flags) := by
  intro ω sink out number error calls hfails
  let first := start (Sink.mute sink.rate sink.channels) song volume sine ()
  have hends := thread_endsInFailure sink.rate sink.channels volume
  have hcalls : calls = ((thread sink.rate sink.channels volume).script (flags sink.rate)
      first).requests := by
    have hrun := runUnder_withOut (Sink.recorder sink.rate sink.channels) volume
      (flags sink.rate) first []
    have hrecorded := hends.run_recorder (flags sink.rate) first sink.rate sink.channels
    exact (congrArg SongWorker.out hrun).trans (congrArg Prod.snd hrecorded)
  rw [hcalls] at hfails ⊢
  obtain ⟨before, hbefore, hrun⟩ := hends.run_of_failsAt _ _ hfails
  refine ⟨before.stream, congrArg (Option.map SongWorker.stream) hbefore, ?_⟩
  have hworker := runUnder_withOut sink volume (flags sink.rate) first out
  rw [hrun] at hworker
  exact congrArg outcome hworker

end SongWorker

/-! ## All that plays -/

def noSource (_ : UInt32) (_ : UInt16) (_ : Nat) : Option Unit := some ()

theorem Follows.stopsAtFailure_unit {play : ∀ ω : Type, Sink ω → ω → Outcome α Unit ω}
    (script : UInt32 → UInt16 → Script α Unit) (h : Follows play script) :
    StopsAtFailure play noSource := by
  intro ω sink out number error calls hfails
  obtain ⟨_, _, hplay⟩ := h.stopsAtFailure script ω sink out number error hfails
  exact ⟨(), rfl, hplay⟩

/--
Whatever is played, and however, the first call of the sink that fails is the last one, and its
error is the result: silence, a chunk, a gap or the flush of a thread, whether the thread is left
to play to its end or is stopped after any number of its steps.
-/
theorem failure_ends_playback :
    (∀ {σ : Type} (source : Source σ) (total : Nat) (volume : Float32) (cancel : σ → Bool)
      (s : σ),
      StopsAtFailure (fun _ sink out => playPadded sink source total volume cancel s out)
        (fun rate channels =>
          (source.paddedScript volume cancel rate (widthOf channels) total s).sourceAt) ∧
      StopsAtFailure (fun _ sink out => playRaw sink source total volume cancel s out)
        (fun _ channels =>
          (source.rawScript volume cancel (widthOf channels) total s).sourceAt)) ∧
    (∀ (samples : Array Int16) (volume : Float32),
      StopsAtFailure (fun _ sink out => .ofPair (playSamples sink samples volume out)) noSource) ∧
    (∀ (tone : Tone) (volume : Float32),
      StopsAtFailure (fun _ sink out => .ofPair (tone.play sink volume out)) noSource) ∧
    (∀ (tones : List Tone) (volume : Float32),
      StopsAtFailure (fun _ sink out => .ofPair (Tone.playAll tones sink volume out)) noSource) ∧
    (∀ {κ : Type} (sound : BootSound) (store : Store κ) (kept : κ) (volume : Float32),
      StopsAtFailure (fun _ sink out => .ofPair (sound.play sink store kept volume out))
        noSource) ∧
    (∀ (song : Song) (volume : Float32) (sine : Bool),
      let left (rate : UInt32) := 4 + 2 * (SongStream.start rate song sine).total
      StopsAtFailure
        (fun _ sink out =>
          ((SongWorker.start sink song volume sine out).finish sink volume false).outcome)
        (SongWorker.streamAt song volume sine fun rate => List.replicate (left rate) false) ∧
      ∀ steps : Nat,
        StopsAtFailure
          (fun _ sink out =>
            ((SongWorker.start sink song volume sine out).stopAfter sink volume steps).outcome)
          (SongWorker.streamAt song volume sine fun rate =>
            SongWorker.flagsOfStop steps (left rate))) := by
  refine ⟨?_, ?_, ?_, ?_, ?_, ?_⟩
  · intro σ source total volume cancel s
    constructor
    · exact Follows.stopsAtFailure
        (fun rate channels =>
          source.paddedScript volume cancel rate (widthOf channels) total s)
        fun _ sink out => source.playPadded_follows volume cancel sink total s out
    · exact Follows.stopsAtFailure
        (fun _ channels => source.rawScript volume cancel (widthOf channels) total s)
        fun _ sink out => source.playRaw_follows volume cancel sink total s out
  · intro samples volume
    exact Follows.stopsAtFailure_unit
      (fun _ channels => samplesScript samples volume (widthOf channels))
      fun _ sink out => playSamples_follows samples volume sink out
  · intro tone volume
    exact Follows.stopsAtFailure_unit
      (fun rate channels => tone.script volume rate (widthOf channels))
      fun _ sink out => tone.play_follows volume sink out
  · intro tones volume
    exact Follows.stopsAtFailure_unit
      (fun rate channels => Tone.scriptFrom volume rate (widthOf channels) tones 0)
      fun _ sink out => Tone.playFrom_follows volume sink tones 0 out
  · intro κ sound store kept volume
    exact Follows.stopsAtFailure_unit
      (fun rate channels => sound.script store kept volume rate (widthOf channels))
      fun _ sink out => sound.play_follows store kept volume sink out
  · intro song volume sine left
    constructor
    · have hplay := SongWorker.runUnder_stopsAtFailure song volume sine fun rate =>
        List.replicate (left rate) false
      have hfinish {ω : Type} (sink : Sink ω) (out : ω) :
          (SongWorker.start sink song volume sine out).finish sink volume false =
            (SongWorker.start sink song volume sine out).runUnder sink volume
              (List.replicate (left sink.rate) false) :=
        SongWorker.finish_eq_runUnder sink volume false _ (Nat.le_refl _)
      simpa only [hfinish] using hplay
    · intro steps
      have hplay := SongWorker.runUnder_stopsAtFailure song volume sine fun rate =>
        SongWorker.flagsOfStop steps (left rate)
      have hstop {ω : Type} (sink : Sink ω) (out : ω) :
          (SongWorker.start sink song volume sine out).stopAfter sink volume steps =
            (SongWorker.start sink song volume sine out).runUnder sink volume
              (SongWorker.flagsOfStop steps (left sink.rate)) :=
        SongWorker.stopAfter_eq_runUnder sink volume steps _
      simpa only [hstop] using hplay

theorem failure_ends_playback_in_the_chunk :
    let source := Source.inPieces fun _ => 2
    let played (sink : Sink (List SinkCall)) :=
      playPadded sink source 2 1 neverCancelled (0, [1000, -2000]) []
    let silence : SinkCall := .write (Array.replicate 10 0)
    let chunk : SinkCall := .write #[1000, 1000, -2000, -2000]
    (played (Sink.recorder 1000 2)).out = [silence, chunk, silence] ∧
      (Sink.goneAfter 1).FailsAt [silence, chunk, silence] [] 1 .disconnected ∧
      played (Sink.goneAfter 1) = ⟨.error .disconnected, (1, []), [silence, chunk]⟩ := by
  intro source played silence chunk
  have hcalls : (played (Sink.recorder 1000 2)).out = [silence, chunk, silence] := by
    decide +kernel
  have hfails : (Sink.goneAfter 1).FailsAt [silence, chunk, silence] [] 1 .disconnected :=
    .later rfl (.here rfl)
  have hlast : (source.paddedScript 1 neverCancelled 1000 2 2 (0, [1000, -2000])).sourceAt 1 =
      some (1, []) := by
    decide +kernel
  obtain ⟨last, hsource, hplayed⟩ :=
    (failure_ends_playback.1 source 2 1 neverCancelled (0, [1000, -2000])).1 _
      (Sink.goneAfter 1) [] 1 .disconnected (hcalls ▸ hfails)
  obtain rfl : last = (1, []) := Option.some.inj (hsource.symm.trans hlast)
  refine ⟨hcalls, hfails, hplayed.trans ?_⟩
  exact congrArg
    (fun calls => Outcome.mk (.error .disconnected) (1, []) (Sink.after _ (calls.take 2) [])) hcalls

end PulseTracker
