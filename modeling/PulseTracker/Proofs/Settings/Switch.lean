import PulseTracker.Proofs.Store.Law
import PulseTracker.Settings

/-!
# The switch in memory and in the store

Settings are loaded once and changed in memory.  A change goes on to the store if
it is asked to, and a call that changes nothing writes nothing.  So the store says
what the settings say as long as the switch was not changed without being written,
and after that a call that asks for the value in memory does not bring it there.
-/

namespace PulseTracker.Settings

inductive Call where
  | enabled (value persisted : Bool)
  | volume (value : Float32) (persisted : Bool)

def Call.persisted : Call → Bool
  | .enabled _ persisted => persisted
  | .volume _ persisted => persisted

def Call.make (call : Call) (settings : Settings) (store : Store κ) (kept : κ) : Change κ :=
  match call with
  | .enabled value persisted => settings.setEnabled value persisted store kept
  | .volume value persisted => settings.setVolume value persisted store kept

def Change.done (change : Change κ) : Bool :=
  match change.result with
  | .ok changed => changed
  | .error _ => false

structure Session (κ : Type) where
  settings : Settings
  kept : κ
  /-- The switch was not changed since it was loaded or last written. -/
  written : Bool

namespace Session

def start (store : Store κ) (kept : κ) : Session κ :=
  ⟨load store kept, kept, true⟩

def act (store : Store κ) (session : Session κ) (call : Call) : Session κ :=
  let change := call.make session.settings store session.kept
  { settings := change.settings
    kept := change.kept
    written := call.persisted && change.done ||
      session.written && change.settings.enabled = session.settings.enabled }

def run (store : Store κ) (session : Session κ) (calls : List Call) : Session κ :=
  calls.foldl (act store) session

end Session

def InStep (settings : Settings) (store : Store κ) (kept : κ) : Prop :=
  (load store kept).enabled = settings.enabled

variable {store : Store κ}

/-! ## Writing -/

theorem load_enabled_congr {kept kept' : κ}
    (h : store.get? kept' enabledKey = store.get? kept enabledKey) :
    (load store kept').enabled = (load store kept).enabled := by
  simp only [load, text?, h]

theorem inStep_of_get {settings : Settings} {kept : κ}
    (h : store.get? kept enabledKey = some settings.enabledText) :
    settings.InStep store kept := by
  simp only [InStep, load, text?, h, enabledText]
  cases settings.enabled
  · decide
  · decide

/-- Writing both values brings the switch to the store, or else leaves it as it was. -/
theorem persist_inStep (hstore : store.Lawful) (settings : Settings) (kept : κ)
    (h : (settings.persist store kept).1 = .ok () ∨ settings.InStep store kept) :
    settings.InStep store (settings.persist store kept).2 := by
  have hswitch := hstore.old_or_new enabledKey settings.enabledText kept
  have hvolume := fun kept =>
    hstore.other volumeKey settings.volumeText kept (show enabledKey ≠ volumeKey by decide)
  unfold persist at h ⊢
  cases hset : store.set enabledKey settings.enabledText kept with
  | mk result kept' =>
      rw [hset] at hswitch h
      cases result with
      | error error =>
          have hbefore : settings.InStep store kept := h.resolve_left (by simp)
          rcases hswitch with hnew | hold
          · exact inStep_of_get hnew
          · exact (load_enabled_congr hold).trans hbefore
      | ok _ =>
          have hget := hstore.givesBack hset
          exact (load_enabled_congr (hvolume kept')).trans (inStep_of_get hget)

/-! ## Calls -/

theorem change_settings (settings : Settings) (persisted : Bool) (store : Store κ) (kept : κ) :
    (settings.change persisted store kept).settings = settings := by
  unfold change
  split
  · split <;> rfl
  · rfl

theorem change_inStep (hstore : store.Lawful) (settings : Settings) (persisted : Bool) (kept : κ)
    (h : (persisted = true ∧ (settings.change persisted store kept).done = true) ∨
      settings.InStep store kept) :
    settings.InStep store (settings.change persisted store kept).kept := by
  cases persisted with
  | false => exact h.resolve_left (by simp)
  | true =>
      have hpersist := persist_inStep hstore settings kept
      simp only [change, if_true, true_and] at h ⊢
      cases hwrite : settings.persist store kept with
      | mk result kept' =>
          rw [hwrite] at hpersist h
          cases result with
          | error error => exact hpersist (h.imp_left (by simp [Change.done]))
          | ok _ => exact hpersist (Or.inl rfl)

theorem Call.make_cases (call : Call) (settings : Settings) (store : Store κ) (kept : κ) :
    call.make settings store kept = ⟨.ok false, settings, kept⟩ ∨
      ∃ next : Settings, call.make settings store kept = next.change call.persisted store kept := by
  cases call with
  | enabled value persisted =>
      simp only [make, setEnabled, Call.persisted]
      split
      · exact Or.inl rfl
      · exact Or.inr ⟨_, rfl⟩
  | volume value persisted =>
      simp only [make, setVolume, Call.persisted]
      split
      · exact Or.inl rfl
      · exact Or.inr ⟨_, rfl⟩

theorem Session.act_inStep (hstore : store.Lawful) {session : Session κ}
    (h : session.written = true → session.settings.InStep store session.kept) (call : Call)
    (hwritten : (session.act store call).written = true) :
    (session.act store call).settings.InStep store (session.act store call).kept := by
  simp only [act, Bool.or_eq_true, Bool.and_eq_true, decide_eq_true_eq] at hwritten ⊢
  rcases call.make_cases session.settings store session.kept with hnothing | ⟨next, hchange⟩
  · rw [hnothing] at hwritten ⊢
    rcases hwritten with ⟨-, hdone⟩ | ⟨hbefore, -⟩
    · cases hdone
    · exact h hbefore
  · rw [hchange, change_settings] at hwritten ⊢
    apply change_inStep hstore
    rcases hwritten with hdone | ⟨hbefore, hsame⟩
    · exact Or.inl hdone
    · exact Or.inr ((h hbefore).trans hsame.symm)

theorem Session.run_inStep (hstore : store.Lawful) {session : Session κ}
    (h : session.written = true → session.settings.InStep store session.kept)
    (calls : List Call) (hwritten : (session.run store calls).written = true) :
    (session.run store calls).settings.InStep store (session.run store calls).kept := by
  induction calls generalizing session with
  | nil => exact h hwritten
  | cons call calls ih => exact ih (act_inStep hstore h call) hwritten

theorem Session.start_inStep (store : Store κ) (kept : κ) :
    (start store kept).settings.InStep store (start store kept).kept := rfl

theorem change_result {settings : Settings} {persisted : Bool} {kept : κ} {changed : Bool}
    (h : (settings.change persisted store kept).result = .ok changed) : changed = true := by
  unfold change at h
  split at h
  · split at h
    · cases h
    · cases h
      rfl
  · cases h
    rfl

/--
The switch is set and to be kept, after any calls.  If that changes it, the store has the new
value.  If not, nothing is written, and the store has the value if it had it before, as it does
when the switch was not changed since it was loaded or last written.
-/
theorem setEnabled_persisted (hstore : store.Lawful) (first : κ) (calls : List Call)
    (value : Bool) :
    let session := (Session.start store first).run store calls
    let last := session.settings.setEnabled value true store session.kept
    (last.result = .ok true → (load store last.kept).enabled = value) ∧
      (last.result = .ok false → last.kept = session.kept ∧
        (session.written = true → (load store last.kept).enabled = value)) := by
  intro session last
  by_cases hsame : session.settings.enabled = value
  · have hlast : last = ⟨.ok false, session.settings, session.kept⟩ := if_pos hsame
    rw [hlast]
    constructor
    · intro h
      cases h
    · intro _
      refine ⟨rfl, fun hwritten => ?_⟩
      rw [← hsame]
      exact Session.run_inStep hstore (fun _ => Session.start_inStep store first) calls hwritten
  · have hlast : last = change { session.settings with enabled := value } true store
        session.kept := if_neg hsame
    rw [hlast]
    constructor
    · intro h
      have hdone : (change { session.settings with enabled := value } true store
          session.kept).done = true := by rw [Change.done, h]
      exact change_inStep hstore _ true session.kept (Or.inl ⟨rfl, hdone⟩)
    · intro h
      exact absurd (change_result h) Bool.false_ne_true

theorem setEnabled_persisted_after_turning_back :
    let session := (Session.start tableStore .empty).run tableStore
      [.enabled false false, .enabled true true]
    let last := session.settings.setEnabled false true tableStore session.kept
    tableStore.Lawful ∧ last.result = .ok true ∧ (load tableStore last.kept).enabled = false := by
  have hpersisted := setEnabled_persisted tableStore_lawful .empty
    [.enabled false false, .enabled true true] false
  exact ⟨tableStore_lawful, rfl, hpersisted.1 rfl⟩

/-- A switch that was turned off in memory alone stays on in the store when it is turned off once
more, though this time it is to be kept. -/
theorem setEnabled_unchanged_not_written :
    let session := (Session.start tableStore .empty).run tableStore [.enabled false false]
    let last := session.settings.setEnabled false true tableStore session.kept
    last.result = .ok false ∧ (load tableStore last.kept).enabled = true :=
  ⟨rfl, rfl⟩

end PulseTracker.Settings
