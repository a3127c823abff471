import PulseTracker.Audio.Playback

/-!
# Scripts of calls

What is asked of a sink does not depend on its answers, until it fails: the calls of a run in
which nothing fails are a script, and every other run performs the script up to the first call
that fails.
-/

namespace PulseTracker

/-! ## Calls of a sink -/

inductive SinkCall where
  | write (samples : Array Int16)
  | flush
  deriving DecidableEq, Repr

namespace Sink

def call (sink : Sink ω) (out : ω) : SinkCall → ω
  | .write samples => (sink.write samples out).2
  | .flush => (sink.flush out).2

def after (sink : Sink ω) (calls : List SinkCall) (out : ω) : ω :=
  calls.foldl sink.call out

structure NeverFails (sink : Sink ω) : Prop where
  write : ∀ samples out, (sink.write samples out).1 = .ok ()
  flush : ∀ out, (sink.flush out).1 = .ok ()

def answer (sink : Sink ω) (out : ω) : SinkCall → Except SoundError Unit
  | .write samples => (sink.write samples out).1
  | .flush => (sink.flush out).1

def Grants (sink : Sink ω) : List SinkCall → ω → Prop
  | [], _ => True
  | call :: rest, out => sink.answer out call = .ok () ∧ sink.Grants rest (sink.call out call)

theorem NeverFails.grants {sink : Sink ω} (h : sink.NeverFails) (calls : List SinkCall) (out : ω) :
    sink.Grants calls out := by
  induction calls generalizing out with
  | nil => trivial
  | cons call rest ih =>
      refine ⟨?_, ih _⟩
      cases call with
      | write samples => exact h.write samples out
      | flush => exact h.flush out

inductive FailsAt (sink : Sink ω) : List SinkCall → ω → Nat → SoundError → Prop where
  | here {call rest out error} :
      sink.answer out call = .error error → FailsAt sink (call :: rest) out 0 error
  | later {call rest out number error} :
      sink.answer out call = .ok () → FailsAt sink rest (sink.call out call) number error →
      FailsAt sink (call :: rest) out (number + 1) error

def recorder (rate : UInt32) (channels : UInt16) : Sink (List SinkCall) where
  rate
  channels
  write samples calls := (.ok (), calls ++ [.write samples])
  flush calls := (.ok (), calls ++ [.flush])

def mute (rate : UInt32) (channels : UInt16) : Sink Unit where
  rate
  channels
  write _ out := (.ok (), out)

def goneAfter (room : Nat) : Sink (List SinkCall) where
  rate := 1000
  channels := 2
  write samples calls :=
    (if calls.length < room then .ok () else .error .disconnected, calls ++ [.write samples])
  flush calls := (if calls.length < room then .ok () else .error .disconnected, calls ++ [.flush])

theorem after_of_keeps (sink : Sink (List SinkCall))
    (hwrite : ∀ samples calls, (sink.write samples calls).2 = calls ++ [.write samples])
    (hflush : ∀ calls, (sink.flush calls).2 = calls ++ [.flush]) (calls before : List SinkCall) :
    sink.after calls before = before ++ calls := by
  induction calls generalizing before with
  | nil => exact (List.append_nil before).symm
  | cons call rest ih =>
      have hcall : sink.call before call = before ++ [call] := by
        cases call with
        | write samples => exact hwrite samples before
        | flush => exact hflush before
      simp only [after, List.foldl_cons, hcall] at ih ⊢
      rw [ih, List.append_assoc, List.singleton_append]

theorem flush_eq (sink : Sink ω) (out : ω) :
    sink.flush out = (sink.answer out .flush, sink.call out .flush) := rfl

end Sink

theorem Recording.sink_neverFails (rate : UInt32) (channels : UInt16) :
    (sink rate channels).NeverFails where
  write _ _ := rfl
  flush _ := rfl

/-! ## Scripts -/

structure Script (α σ : Type) where
  calls : List (σ × SinkCall)
  result : α
  source : σ

namespace Script

variable {α β σ τ ω : Type}

def done (result : α) (source : σ) : Script α σ := ⟨[], result, source⟩

def cons (source : σ) (call : SinkCall) (script : Script α σ) : Script α σ :=
  { script with calls := (source, call) :: script.calls }

def bind (script : Script α σ) (next : α → σ → Script β σ) : Script β σ :=
  let rest := next script.result script.source
  { rest with calls := script.calls ++ rest.calls }

def mapSource (f : σ → τ) (script : Script α σ) : Script α τ :=
  { calls := script.calls.map fun entry => (f entry.1, entry.2)
    result := script.result
    source := f script.source }

def requests (script : Script α σ) : List SinkCall := script.calls.map Prod.snd

@[simp] theorem requests_mapSource (f : σ → τ) (script : Script α σ) :
    (script.mapSource f).requests = script.requests := by
  simp [requests, mapSource, Function.comp_def]

def sourceAt (script : Script α σ) (number : Nat) : Option σ :=
  script.calls[number]?.map Prod.fst

def performFrom (sink : Sink ω) (result : α) (source : σ) :
    List (σ × SinkCall) → ω → Outcome α σ ω
  | [], out => ⟨.ok result, source, out⟩
  | (before, call) :: rest, out =>
      match sink.answer out call with
      | .error error => ⟨.error error, before, sink.call out call⟩
      | .ok _ => performFrom sink result source rest (sink.call out call)

def perform (script : Script α σ) (sink : Sink ω) (out : ω) : Outcome α σ ω :=
  performFrom sink script.result script.source script.calls out

theorem perform_done (result : α) (source : σ) (sink : Sink ω) (out : ω) :
    (done result source).perform sink out = ⟨.ok result, source, out⟩ := rfl

theorem perform_cons (source : σ) (call : SinkCall) (script : Script α σ) (sink : Sink ω)
    (out : ω) :
    (script.cons source call).perform sink out =
      match sink.answer out call with
      | .error error => ⟨.error error, source, sink.call out call⟩
      | .ok _ => script.perform sink (sink.call out call) := rfl

theorem perform_bind (script : Script α σ) (next : α → σ → Script β σ) (sink : Sink ω)
    (out : ω) :
    (script.bind next).perform sink out =
      match script.perform sink out with
      | ⟨.error error, source, out⟩ => ⟨.error error, source, out⟩
      | ⟨.ok result, source, out⟩ => (next result source).perform sink out := by
  obtain ⟨calls, result, source⟩ := script
  induction calls generalizing out with
  | nil => rfl
  | cons entry rest ih =>
      obtain ⟨before, call⟩ := entry
      simp only [perform, bind, List.cons_append, performFrom] at ih ⊢
      cases sink.answer out call with
      | error error => rfl
      | ok _ => exact ih (sink.call out call)

theorem perform_mapSource (f : σ → τ) (script : Script α σ) (sink : Sink ω) (out : ω) :
    (script.mapSource f).perform sink out =
      { result := (script.perform sink out).result
        source := f (script.perform sink out).source
        out := (script.perform sink out).out } := by
  obtain ⟨calls, result, source⟩ := script
  induction calls generalizing out with
  | nil => rfl
  | cons entry rest ih =>
      obtain ⟨before, call⟩ := entry
      simp only [perform, mapSource, List.map_cons, performFrom] at ih ⊢
      cases sink.answer out call with
      | error error => rfl
      | ok _ => exact ih (sink.call out call)

theorem perform_of_grants (script : Script α σ) {sink : Sink ω} {out : ω}
    (h : sink.Grants script.requests out) :
    script.perform sink out =
      ⟨.ok script.result, script.source, sink.after script.requests out⟩ := by
  obtain ⟨calls, result, source⟩ := script
  induction calls generalizing out with
  | nil => rfl
  | cons entry rest ih =>
      obtain ⟨before, call⟩ := entry
      obtain ⟨hanswer, hrest⟩ := h
      simp only [perform, performFrom, hanswer]
      exact ih hrest

theorem perform_of_failsAt (script : Script α σ) {sink : Sink ω} {out : ω} {number : Nat}
    {error : SoundError} (h : sink.FailsAt script.requests out number error) :
    ∃ source, script.sourceAt number = some source ∧
      script.perform sink out =
        ⟨.error error, source, sink.after (script.requests.take (number + 1)) out⟩ := by
  obtain ⟨calls, result, source⟩ := script
  induction calls generalizing out number with
  | nil => cases h
  | cons entry rest ih =>
      obtain ⟨before, call⟩ := entry
      cases h with
      | here hanswer =>
          refine ⟨before, rfl, ?_⟩
          simp only [perform, performFrom, hanswer]
          rfl
      | later hanswer hrest =>
          obtain ⟨source', hsource, hperform⟩ := ih hrest
          refine ⟨source', hsource, ?_⟩
          simp only [perform, performFrom, hanswer]
          exact hperform

theorem recorder_neverFails (rate : UInt32) (channels : UInt16) :
    (Sink.recorder rate channels).NeverFails where
  write _ _ := rfl
  flush _ := rfl

theorem recorder_after (rate : UInt32) (channels : UInt16) (calls before : List SinkCall) :
    (Sink.recorder rate channels).after calls before = before ++ calls :=
  Sink.after_of_keeps (Sink.recorder rate channels) (fun _ _ => rfl) (fun _ => rfl) calls before

theorem perform_recorder (script : Script α σ) (rate : UInt32) (channels : UInt16) :
    script.perform (Sink.recorder rate channels) [] =
      ⟨.ok script.result, script.source, script.requests⟩ := by
  rw [script.perform_of_grants ((recorder_neverFails rate channels).grants _ _), recorder_after,
    List.nil_append]

end Script

/-! ## Runs that follow a script -/

/-- A run on every sink, of some rate and number of channels, performs the script for them. -/
def Follows (play : ∀ ω : Type, Sink ω → ω → Outcome α σ ω)
    (script : UInt32 → UInt16 → Script α σ) : Prop :=
  ∀ (ω : Type) (sink : Sink ω) (out : ω),
    play ω sink out = (script sink.rate sink.channels).perform sink out

/-- The first call that fails, of those that a run makes on a sink that never fails, is the last
one that is made: its error is the result, and the source stays as it was at that call. -/
def StopsAtFailure (play : ∀ ω : Type, Sink ω → ω → Outcome α σ ω)
    (sourceAt : UInt32 → UInt16 → Nat → Option σ) : Prop :=
  ∀ (ω : Type) (sink : Sink ω) (out : ω) (number : Nat) (error : SoundError),
    let calls := (play _ (Sink.recorder sink.rate sink.channels) []).out
    sink.FailsAt calls out number error →
      ∃ source, sourceAt sink.rate sink.channels number = some source ∧
        play ω sink out = ⟨.error error, source, sink.after (calls.take (number + 1)) out⟩

theorem Follows.recorded {play : ∀ ω : Type, Sink ω → ω → Outcome α σ ω}
    {script : UInt32 → UInt16 → Script α σ} (h : Follows play script) (rate : UInt32)
    (channels : UInt16) :
    (play _ (Sink.recorder rate channels) []).out = (script rate channels).requests := by
  have hplay := h _ (Sink.recorder rate channels) []
  rw [show (Sink.recorder rate channels).rate = rate from rfl,
    show (Sink.recorder rate channels).channels = channels from rfl,
    Script.perform_recorder] at hplay
  exact congrArg Outcome.out hplay

theorem Follows.stopsAtFailure {play : ∀ ω : Type, Sink ω → ω → Outcome α σ ω}
    (script : UInt32 → UInt16 → Script α σ) (h : Follows play script) :
    StopsAtFailure play fun rate channels => (script rate channels).sourceAt := by
  intro ω sink out number error calls hfails
  have hcalls : calls = (script sink.rate sink.channels).requests := h.recorded _ _
  rw [hcalls] at hfails ⊢
  rw [h ω sink out]
  exact Script.perform_of_failsAt _ hfails

end PulseTracker
