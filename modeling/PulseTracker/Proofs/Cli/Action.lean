import PulseTracker.Cli.Session

/-!
# Running actions

An action does what its parts do, one after the other, up to the first that fails.
-/

namespace PulseTracker.Cli.Action

variable {α β : Type}

@[simp] theorem run_bind (action : Action α) (next : α → Action β) (session : Session) :
    (action >>= next).run.run session =
      match action.run.run session with
      | (.ok value, session) => (next value).run.run session
      | (.error failure, session) => (.error failure, session) := by
  show (match action.run.run session with
    | (result, session) => (ExceptT.bindCont next result).run session) = _
  cases action.run.run session with
  | mk result after => cases result <;> rfl

@[simp] theorem run_pure (value : α) (session : Session) :
    (pure value : Action α).run.run session = (.ok value, session) := rfl

@[simp] theorem run_mk (result : Except Failure α) (session : Session) :
    (ExceptT.mk (pure result) : Action α).run.run session = (result, session) := rfl

@[simp] theorem run_get (session : Session) :
    (get : Action Session).run.run session = (.ok session, session) := rfl

@[simp] theorem run_ofResult (result : Except SoundError α) (session : Session) :
    (ofResult result).run.run session = (result.mapError .audio, session) := by
  cases result <;> rfl

@[simp] theorem run_discard (action : Action α) (session : Session) :
    (discard action).run.run session =
      match action.run.run session with
      | (.ok _, session) => (.ok (), session)
      | (.error failure, session) => (.error failure, session) := by
  have hbind : discard action = action >>= fun _ => pure () :=
    (bind_pure_comp (fun _ => ()) action).symm
  simp only [hbind, run_bind, run_pure]

@[simp] theorem run_record (records : List LogRecord) (session : Session) :
    (record records).run.run session =
      (.ok (), { session with log := session.log ++ records }) := rfl

@[simp] theorem run_print (line : String) (session : Session) :
    (print line).run.run session =
      (.ok (), { session with output := session.output ++ line ++ "\n" }) := rfl

@[simp] theorem run_putDisk (disk : Disk) (session : Session) :
    (putDisk disk).run.run session = (.ok (), { session with disk }) := rfl

end PulseTracker.Cli.Action
