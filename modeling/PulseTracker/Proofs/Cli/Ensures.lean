import PulseTracker.Proofs.Cli.Action

/-!
# What actions ensure

An action is begun on a disk with one property and ends on one with another, both when it succeeds
and when it fails.  What is true of its value is known to the actions that follow.
-/

namespace PulseTracker.Cli

variable {α β : Type} {P E : Disk → Prop} {Q : α → Disk → Prop} {R : β → Disk → Prop}

/-- Begun on a disk with `P`, the action gives a value that has `Q` with the disk it leaves, or it
fails and leaves a disk with `E`. -/
structure Ensures (P : Disk → Prop) (action : Action α) (Q : α → Disk → Prop) (E : Disk → Prop) :
    Prop where
  of_run : ∀ session, P session.disk →
    match action.run.run session with
    | (.ok value, after) => Q value after.disk
    | (.error _, after) => E after.disk

def Keeps (P : Disk → Prop) (action : Action α) : Prop := Ensures P action (fun _ => P) P

namespace Ensures

theorem bind {action : Action α} {next : α → Action β} (h : Ensures P action Q E)
    (hnext : ∀ value, Ensures (Q value) (next value) R E) : Ensures P (action >>= next) R E := by
  refine ⟨fun session hbefore => ?_⟩
  have hmiddle := h.of_run session hbefore
  rw [Action.run_bind]
  cases hrun : action.run.run session with
  | mk result after =>
      rw [hrun] at hmiddle
      cases result with
      | error failure => exact hmiddle
      | ok value => exact (hnext value).of_run after hmiddle

theorem weaken {Q' : α → Disk → Prop} {E' : Disk → Prop} {action : Action α}
    (h : Ensures P action Q E) (hvalue : ∀ value disk, Q value disk → Q' value disk)
    (hfailure : ∀ disk, E disk → E' disk) : Ensures P action Q' E' := by
  refine ⟨fun session hbefore => ?_⟩
  have hafter := h.of_run session hbefore
  cases hrun : action.run.run session with
  | mk result after =>
      rw [hrun] at hafter
      cases result with
      | error failure => exact hfailure after.disk hafter
      | ok value => exact hvalue value after.disk hafter

theorem assume {F : Prop} {action : Action α} (h : F → Ensures P action Q E) :
    Ensures (fun disk => F ∧ P disk) action Q E :=
  ⟨fun session hbefore => (h hbefore.1).of_run session hbefore.2⟩

theorem discard {action : Action α} (h : Ensures P action (fun _ => E) E) :
    Ensures P (discard action) (fun _ => E) E := by
  refine ⟨fun session hbefore => ?_⟩
  have hafter := h.of_run session hbefore
  rw [Action.run_discard]
  cases hrun : action.run.run session with
  | mk result after =>
      rw [hrun] at hafter
      cases result with
      | error failure => exact hafter
      | ok value => exact hafter

end Ensures

/-! ## Single actions -/

theorem ensures_pure (value : α) :
    Ensures P (pure value) (fun result disk => result = value ∧ P disk) E :=
  ⟨fun _ hbefore => ⟨rfl, hbefore⟩⟩

theorem ensures_get :
    Ensures P get (fun session disk => P session.disk ∧ P disk) E :=
  ⟨fun _ hbefore => ⟨hbefore, hbefore⟩⟩

theorem ensures_ofResult {result : Except SoundError α} :
    Ensures P (Action.ofResult result) (fun value disk => result = .ok value ∧ P disk) P := by
  refine ⟨fun session hbefore => ?_⟩
  rw [Action.run_ofResult]
  cases result with
  | error error => exact hbefore
  | ok value => exact ⟨rfl, hbefore⟩

theorem keeps_ofResult (result : Except SoundError α) : Keeps P (Action.ofResult result) :=
  ensures_ofResult.weaken (fun _ _ h => h.2) fun _ h => h

theorem keeps_result (result : Except Failure α) :
    Keeps P (ExceptT.mk (pure result) : Action α) := by
  refine ⟨fun session hbefore => ?_⟩
  rw [Action.run_mk]
  cases result with
  | error failure => exact hbefore
  | ok value => exact hbefore

theorem keeps_pure (value : α) : Keeps P (pure value : Action α) := ⟨fun _ hbefore => hbefore⟩

theorem keeps_get : Keeps P get := ⟨fun _ hbefore => hbefore⟩

theorem keeps_putDisk {disk : Disk} (h : P disk) : Keeps P (Action.putDisk disk) := ⟨fun _ _ => h⟩

theorem keeps_print (line : String) : Keeps P (Action.print line) := ⟨fun _ hbefore => hbefore⟩

theorem keeps_record (records : List LogRecord) : Keeps P (Action.record records) :=
  ⟨fun _ hbefore => hbefore⟩

theorem keeps_throw (failure : Failure) : Keeps P (throw failure : Action α) :=
  ⟨fun _ hbefore => hbefore⟩

theorem Keeps.forIn {items : List α} {step : α → β → Action (ForInStep β)}
    (h : ∀ item value, Keeps P (step item value)) (value : β) :
    Keeps P (forIn items value step) := by
  induction items generalizing value with
  | nil => exact keeps_pure value
  | cons item items ih =>
      rw [List.forIn_cons]
      refine (h item value).bind fun next => ?_
      cases next with
      | done value => exact keeps_pure value
      | yield value => exact ih value

end PulseTracker.Cli
