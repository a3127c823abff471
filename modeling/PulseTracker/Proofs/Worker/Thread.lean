import Mathlib.Logic.Function.Iterate
import PulseTracker.Proofs.Audio.Script

/-!
# Threads that own a sink

A thread makes at most one call in a step.  What it learns from outside between two steps, such as
a flag or a new pitch, is the input of the next one.
-/

namespace PulseTracker

theorem foldl_replicate (f : S → ι → S) (input : ι) (count : Nat) (s : S) :
    (List.replicate count input).foldl f s = (fun s => f s input)^[count] s := by
  induction count generalizing s with
  | zero => rfl
  | succ count ih => exact ih (f s input)

structure Thread (ι S : Type) where
  /-- The call that the next step makes, if it makes any. -/
  request : S → Option SinkCall
  /-- The state after a step whose call did not fail. -/
  advance : ι → S → S
  fail : SoundError → S → S

namespace Thread

variable {ι S ω : Type} (thread : Thread ι S)

def step (sink : Sink ω) (now : S × ω) (input : ι) : S × ω :=
  match thread.request now.1 with
  | none => (thread.advance input now.1, now.2)
  | some call =>
      match sink.answer now.2 call with
      | .error error => (thread.fail error now.1, sink.call now.2 call)
      | .ok _ => (thread.advance input now.1, sink.call now.2 call)

def run (sink : Sink ω) (inputs : List ι) (now : S × ω) : S × ω :=
  inputs.foldl (thread.step sink) now

theorem foldl_joined (sink : Sink ω) (join : S × ω → T) {step : T → ι → T}
    (h : ∀ now input, step (join now) input = join (thread.step sink now input))
    (inputs : List ι) (now : S × ω) :
    inputs.foldl step (join now) = join (thread.run sink inputs now) :=
  List.foldl_hom join h

structure EndsInFailure : Prop where
  request : ∀ error s, thread.request (thread.fail error s) = none
  advance : ∀ input error s, thread.advance input (thread.fail error s) = thread.fail error s

def script : List ι → S → Script S S
  | [], s => .done s s
  | input :: inputs, s =>
      let rest := script inputs (thread.advance input s)
      match thread.request s with
      | none => rest
      | some call => rest.cons s call

variable {thread}

theorem EndsInFailure.run (h : thread.EndsInFailure) (sink : Sink ω) (inputs : List ι)
    (error : SoundError) (s : S) (out : ω) :
    thread.run sink inputs (thread.fail error s, out) = (thread.fail error s, out) := by
  induction inputs with
  | nil => rfl
  | cons input inputs ih =>
      have hstep : thread.step sink (thread.fail error s, out) input =
          (thread.fail error s, out) := by
        simp only [step, h.request, h.advance]
      rw [Thread.run, List.foldl_cons, hstep]
      exact ih

/-- A run performs the script of the run, and ends in the failure of its first call that fails. -/
theorem EndsInFailure.run_follows (h : thread.EndsInFailure) (sink : Sink ω) (inputs : List ι)
    (s : S) (out : ω) :
    thread.run sink inputs (s, out) =
      match (thread.script inputs s).perform sink out with
      | ⟨.ok last, _, out⟩ => (last, out)
      | ⟨.error error, before, out⟩ => (thread.fail error before, out) := by
  induction inputs generalizing s out with
  | nil => rfl
  | cons input inputs ih =>
      simp only [Thread.run, List.foldl_cons, script, step] at ih ⊢
      cases thread.request s with
      | none => exact ih (thread.advance input s) out
      | some call =>
          simp only [Script.perform_cons]
          cases sink.answer out call with
          | error error => exact h.run sink inputs error s (sink.call out call)
          | ok _ => exact ih (thread.advance input s) (sink.call out call)

variable (h : thread.EndsInFailure) (inputs : List ι) (s : S)
include h

theorem EndsInFailure.run_recorder (rate : UInt32) (channels : UInt16) :
    thread.run (Sink.recorder rate channels) inputs (s, []) =
      ((thread.script inputs s).result, (thread.script inputs s).requests) := by
  rw [h.run_follows, Script.perform_recorder]

theorem EndsInFailure.run_of_failsAt {sink : Sink ω} {out : ω} {number : Nat}
    {error : SoundError}
    (hfails : sink.FailsAt (thread.script inputs s).requests out number error) :
    ∃ before, (thread.script inputs s).sourceAt number = some before ∧
      thread.run sink inputs (s, out) =
        (thread.fail error before,
          sink.after ((thread.script inputs s).requests.take (number + 1)) out) := by
  obtain ⟨before, hbefore, hperform⟩ := Script.perform_of_failsAt _ hfails
  refine ⟨before, hbefore, ?_⟩
  rw [h.run_follows, hperform]

end Thread

end PulseTracker
