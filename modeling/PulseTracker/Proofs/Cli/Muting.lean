import PulseTracker.Proofs.Cli.Ensures
import PulseTracker.Proofs.Cli.Routes
import PulseTracker.Proofs.Store.Muted

/-!
# Turning the sound off

While the sound is off in the file of a store, every command that opens the store has it off too.
Those that write the store again leave it off there, and those that would be heard do not get to
the audio host.  Only two commands are left that can end this: one that turns the sound on, and one
that renders to the file of the store.
-/

namespace PulseTracker.Cli

open PulseTracker.Cli.Action

variable {path : String}

/-! ## Opening the store -/

theorem ensures_openStore {P : Disk → Prop} :
    Ensures P (openStore path) (fun store disk => DiskStore.openAt disk path = .ok store ∧ P disk)
      P := by
  refine ⟨fun session hbefore => ?_⟩
  rw [run_openStore]
  cases hopen : DiskStore.openAt session.disk path with
  | error error => exact hbefore
  | ok store => exact ⟨hopen, hbefore⟩

theorem keeps_openStore {P : Disk → Prop} : Keeps P (openStore path) :=
  ensures_openStore.weaken (fun _ _ h => h.2) fun _ h => h

theorem openStore_muted :
    Ensures (Disk.Muted path) (openStore path)
      (fun store disk => store.Muted path ∧ disk.Muted path) (Disk.Muted path) :=
  ensures_openStore.weaken (fun _ _ ⟨hopen, hmuted⟩ => ⟨.of_openAt hmuted hopen, hmuted⟩)
    fun _ h => h

@[simp] theorem run_loadSettings (store : DiskStore) (session : Session) :
    (loadSettings store).run.run session =
      (.ok (Settings.load DiskStore.kept store),
        { session with log := session.log ++ Settings.loadRecords DiskStore.kept store }) := by
  simp only [loadSettings, run_bind, run_record, run_pure]

theorem ensures_loadSettings {P E : Disk → Prop} (store : DiskStore) :
    Ensures P (loadSettings store)
      (fun settings disk => settings = Settings.load DiskStore.kept store ∧ P disk) E := by
  refine ⟨fun session hbefore => ?_⟩
  rw [run_loadSettings]
  exact ⟨rfl, hbefore⟩

/-! ## Changing the settings -/

def applyCall (call : Option Settings.Call) (before : Settings × DiskStore) :
    Action (Settings × DiskStore) :=
  match call with
  | some call => applyChange (call.make before.1 DiskStore.kept before.2)
  | none => pure before

def switchCall (enable disable : Bool) : Option Settings.Call :=
  if enable || disable then some (.enabled enable true) else none

def volumeCall (volume : Option Float32) : Option Settings.Call :=
  volume.map fun volume => .volume volume true

theorem changeSettings_eq (path : String) (enable disable : Bool) (volume : Option Float32) :
    changeSettings path enable disable volume = (do
      let store ← openStore path
      let settings ← loadSettings store
      let switched ← applyCall (switchCall enable disable) (settings, store)
      let (settings, _) ← applyCall (volumeCall volume) switched
      let switch := if settings.enabled then "on" else "off"
      print s!"sound: {switch}  volume: {settings.volumeText}") := by
  cases volume <;> cases enable <;> cases disable <;> rfl

theorem ensures_applyChange {P : Disk → Prop} (change : Settings.Change DiskStore) :
    Ensures P (applyChange change)
      (fun after disk => (∃ changed, change.result = .ok changed) ∧
        after = (change.settings, change.kept) ∧ disk = change.kept.disk)
      (fun disk => disk = change.kept.disk) := by
  refine ⟨fun session _ => ?_⟩
  simp only [applyChange, run_bind, run_putDisk, run_discard, run_ofResult, run_pure]
  cases hresult : change.result with
  | error error => exact rfl
  | ok changed => exact ⟨⟨changed, rfl⟩, rfl, rfl⟩

theorem applyCall_muted {call : Option Settings.Call}
    (hcall : (call.bind Settings.Call.switch?).getD false = false) {settings : Settings}
    {store : DiskStore} (hoff : settings.enabled = false) (hstore : store.Muted path) :
    Ensures (Disk.Muted path) (applyCall call (settings, store))
      (fun after disk => (after.1.enabled = false ∧ after.2.Muted path) ∧ disk.Muted path)
      (Disk.Muted path) := by
  cases call with
  | none =>
      refine (ensures_pure (settings, store)).weaken ?_ fun _ h => h
      rintro _ disk ⟨rfl, hdisk⟩
      exact ⟨⟨hoff, hstore⟩, hdisk⟩
  | some call =>
      have hswitch : call.switch?.getD settings.enabled = false := hoff ▸ hcall
      have hkept := hstore.call hswitch
      refine (ensures_applyChange (call.make settings DiskStore.kept store)).weaken ?_ ?_
      · rintro _ _ ⟨-, rfl, rfl⟩
        exact ⟨⟨(call.make_enabled settings DiskStore.kept store).trans hswitch, hkept⟩, hkept.file⟩
      · rintro _ rfl
        exact hkept.file

theorem changeSettings_muted (disable : Bool) (volume : Option Float32) :
    Keeps (Disk.Muted path) (changeSettings path false disable volume) := by
  have hswitch : ((switchCall false disable).bind Settings.Call.switch?).getD false = false := by
    cases disable <;> rfl
  have hvolume : ((volumeCall volume).bind Settings.Call.switch?).getD false = false := by
    cases volume <;> rfl
  rw [changeSettings_eq]
  -- the settings were loaded from a store where the sound is off, so no call turns it back
  refine openStore_muted.bind fun store => .assume fun hstore => ?_
  refine (ensures_loadSettings store).bind fun settings => .assume fun hsettings => ?_
  have hoff : settings.enabled = false := hsettings ▸ hstore.off
  refine (applyCall_muted hswitch hoff hstore).bind fun ⟨switched, kept⟩ =>
    .assume fun ⟨hoff, hstore⟩ => ?_
  refine (applyCall_muted hvolume hoff hstore).bind fun ⟨last, kept⟩ => .assume fun _ => ?_
  exact keeps_print _

/-! ## Turning the switch -/

theorem applyCall_agrees {call : Option Settings.Call}
    (hpersisted : ∀ made ∈ call, made.persisted = true) {settings : Settings} {store : DiskStore}
    (h : store.Agrees path settings) :
    Ensures (fun disk => disk = store.disk) (applyCall call (settings, store))
      (fun after disk => (after.2.Agrees path after.1 ∧
        after.1.enabled = (call.bind Settings.Call.switch?).getD settings.enabled) ∧
          disk = after.2.disk)
      fun _ => True := by
  cases call with
  | none =>
      refine (ensures_pure (settings, store)).weaken ?_ fun _ h => h
      rintro _ disk ⟨rfl, hdisk⟩
      exact ⟨⟨h, rfl⟩, hdisk⟩
  | some call =>
      refine (ensures_applyChange (call.make settings DiskStore.kept store)).weaken ?_
        fun _ _ => trivial
      rintro _ _ ⟨⟨changed, hresult⟩, rfl, rfl⟩
      have hagrees := h.call (hpersisted call rfl) hresult
      exact ⟨⟨hagrees, call.make_enabled settings DiskStore.kept store⟩, rfl⟩

theorem openStore_agrees :
    Ensures (fun _ => True) (openStore path)
      (fun store disk => store.Agrees path (Settings.load DiskStore.kept store) ∧
        disk = store.disk)
      fun _ => True := by
  refine ensures_openStore.weaken ?_ fun _ h => h
  rintro store disk ⟨hopen, -⟩
  exact ⟨DiskStore.agrees_of_openAt hopen, (DiskStore.openAt_disk hopen).symm⟩

theorem changeSettings_turns (path : String) {enable disable : Bool}
    (hturned : (enable || disable) = true) (volume : Option Float32) :
    Ensures (fun _ => True) (changeSettings path enable disable volume)
      (fun _ disk => ∃ store, DiskStore.openAt disk path = .ok store ∧
        (Settings.load DiskStore.kept store).enabled = enable)
      fun _ => True := by
  have hswitch : switchCall enable disable = some (.enabled enable true) := if_pos hturned
  have hvolume : ∀ call ∈ volumeCall volume, call.persisted = true := by
    cases volume with
    | none => rintro _ ⟨⟩
    | some volume => rintro _ ⟨⟩; rfl
  have hsame : (volumeCall volume).bind Settings.Call.switch? = none := by
    cases volume <;> rfl
  rw [changeSettings_eq, hswitch]
  refine openStore_agrees.bind fun store => .assume fun hstore => ?_
  refine (ensures_loadSettings store).bind fun settings => .assume fun hsettings => ?_
  rw [← hsettings] at hstore
  refine (applyCall_agrees (by rintro _ ⟨⟩; rfl) hstore).bind fun ⟨switched, kept⟩ =>
    .assume fun ⟨hkept, hswitched⟩ => ?_
  refine (applyCall_agrees hvolume hkept).bind fun ⟨last, kept⟩ =>
    .assume fun ⟨hkept, hlast⟩ => ?_
  refine (keeps_print _).weaken ?_ fun _ _ => trivial
  rintro _ _ rfl
  refine ⟨kept, hkept.file, ?_⟩
  calc (Settings.load DiskStore.kept kept).enabled
      = last.enabled := hkept.switch
    _ = switched.enabled := by rw [hlast, hsame, Option.getD_none]
    _ = enable := hswitched

/-! ## Other commands -/

theorem save_muted (slot : Slot) (text : String) :
    Keeps (Disk.Muted path) (save path slot text) := by
  unfold save
  dsimp only
  refine openStore_muted.bind fun store => .assume fun hstore => ?_
  refine (keeps_record _).bind fun _ => ?_
  have hsaved := (hstore.save slot (Song.ofText text)).file
  exact (keeps_putDisk hsaved).bind fun _ => (keeps_ofResult _).bind fun _ => keeps_print _

theorem listSongs_keeps {P : Disk → Prop} (slot : Option Slot) : Keeps P (listSongs path slot) := by
  unfold listSongs
  refine keeps_openStore.bind fun store => ?_
  refine (Keeps.forIn ?_ _).bind fun _ => keeps_pure _
  intro slot _
  split
  · exact (keeps_print _).bind fun _ => keeps_pure _
  · exact (keeps_print _).bind fun _ => keeps_pure _

theorem listDevices_keeps {P : Disk → Prop} : Keeps P listDevices := by
  unfold listDevices
  refine (keeps_print _).bind fun _ => ?_
  refine keeps_get.bind fun session => ?_
  split
  · refine (Keeps.forIn ?_ _).bind fun _ => keeps_pure _
    intro name _
    exact (keeps_print _).bind fun _ => keeps_pure _
  · exact keeps_throw _

theorem close_muted (file : WaveFile) {disk : Disk} (h : disk.Muted path)
    (hother : (Path.ofText file.path).place ≠ (Path.ofText path).place) (take : WaveTake) :
    (file.close take disk).2.Muted path := by
  unfold WaveFile.close
  split
  · exact h
  · rename_i hwrite
    have hclosed := h.write_elsewhere hwrite hother
    split
    · exact hclosed
    · exact hclosed

theorem renderPiece_muted (store : DiskStore) (piece : Piece) {output : String} (rate : UInt32)
    (channels : UInt16) (volume : Option Float32)
    (hother : (Path.ofText output).place ≠ (Path.ofText path).place) :
    Keeps (Disk.Muted path) (renderPiece store piece output rate channels volume) := by
  unfold renderPiece
  refine ensures_get.bind fun session => .assume fun hbefore => ?_
  refine ensures_ofResult.bind fun created => .assume fun hcreate => ?_
  obtain ⟨file, disk⟩ := created
  obtain ⟨rfl, hwrite⟩ := WaveFile.create_ok hcreate
  have hmade := hbefore.write_elsewhere hwrite hother
  refine (keeps_putDisk hmade).bind fun _ => ?_
  -- both kinds of piece end by closing the file
  let file : WaveFile := ⟨output, rate, max 1 channels⟩
  have hclose (take : WaveTake) : Keeps (Disk.Muted path) (do
      let closed := file.close take (← get).disk
      putDisk closed.2
      ofResult closed.1
      print s!"Wrote {take.frames} frames @ {rate} Hz to {output}") := by
    refine ensures_get.bind fun session => .assume fun hsession => ?_
    have hclosed := close_muted file hsession hother take
    exact (keeps_putDisk hclosed).bind fun _ => (keeps_ofResult _).bind fun _ => keeps_print _
  cases piece with
  | boot sound =>
      refine (keeps_record _).bind fun _ => (keeps_ofResult _).discard.bind fun _ => ?_
      exact (keeps_pure _).bind hclose
  | song song sine =>
      refine (keeps_record _).bind fun _ => (keeps_ofResult _).discard.bind fun _ => ?_
      exact (keeps_pure _).bind hclose

theorem render_muted (choice : SongChoice) {output : String} (rate : UInt32)
    (channels : UInt16) (volume : Option Float32)
    (hother : (Path.ofText output).place ≠ (Path.ofText path).place) :
    Keeps (Disk.Muted path) (render path output choice rate channels volume) := by
  unfold render
  refine keeps_openStore.bind fun store => (keeps_result _).bind fun piece => ?_
  exact renderPiece_muted store piece rate channels volume hother

/-! ## Playing while the sound is off -/

/-- Nothing is asked of the audio host and nothing is played: the action does the same whatever
the host is, and leaves the host, the disk and what was played as they are. -/
def Silent (action : Action Unit) (session : Session) : Prop :=
  ∃ result output log, ∀ host, action.run.run { session with host } =
    (result, { session with host, output, log })

theorem play_silent {session : Session} (h : session.disk.Muted path) (choice : SongChoice)
    (request : DeviceRequest) (volume : Option Float32) :
    Silent (play path choice request volume) session := by
  obtain ⟨store, hopen, hoff⟩ := h
  cases hpiece : choice.resolve store with
  | error failure =>
      refine ⟨.error failure, session.output, session.log ++ openRecords session.disk path, ?_⟩
      intro host
      simp only [play, run_bind, run_openStore, hopen, Except.mapError, run_mk, hpiece]
  | ok piece =>
      refine ⟨.ok (), session.output ++ disabledNotice ++ "\n",
        session.log ++ openRecords session.disk path ++
          Settings.loadRecords DiskStore.kept store, ?_⟩
      intro host
      simp only [play, run_bind, run_openStore, hopen, Except.mapError, run_mk, hpiece,
        run_loadSettings, hoff, Bool.not_false, if_true, run_print]

theorem tone_silent {session : Session} (h : session.disk.Muted path) (frequency volume : Float32)
    (milliseconds : Option Nat) (request : DeviceRequest) :
    Silent (tone path frequency volume milliseconds request) session := by
  obtain ⟨store, hopen, hoff⟩ := h
  refine ⟨.ok (), session.output ++ disabledNotice ++ "\n",
    session.log ++ openRecords session.disk path ++
      Settings.loadRecords DiskStore.kept store, ?_⟩
  intro host
  simp only [tone, run_bind, run_openStore, hopen, Except.mapError, run_loadSettings, hoff,
    Bool.not_false, if_true, run_print]

theorem keeps_of_silent {P : Disk → Prop} {action : Action Unit}
    (h : ∀ session, P session.disk → Silent action session) : Keeps P action := by
  refine ⟨fun session hbefore => ?_⟩
  obtain ⟨result, output, log, hrun⟩ := h session hbefore
  have hsame : action.run.run session = (result, { session with output, log }) := hrun session.host
  rw [hsame]
  cases result with
  | error failure => exact hbefore
  | ok value => exact hbefore

/-! ## Commands -/

namespace Command

/-- The command does not turn the sound on and does not write its output over the store. -/
def Spares (path : String) : Command → Prop
  | .settings enable _ _ => enable = false
  | .render output _ _ _ _ => (Path.ofText output).place ≠ (Path.ofText path).place
  | _ => True

def IsHeard : Command → Prop
  | .play _ _ _ | .tone _ _ _ _ => True
  | _ => False

end Command

theorem runCommand_silent {command : Command} (hheard : command.IsHeard) {session : Session}
    (h : session.disk.Muted path) : Silent (runCommand path command) session := by
  cases command with
  | play choice device volume => exact play_silent h choice device volume
  | tone frequency volume milliseconds device =>
      exact tone_silent h frequency volume milliseconds device
  | devices | render | save | list | settings => exact hheard.elim

theorem runCommand_muted {command : Command} (h : command.Spares path) :
    Keeps (Disk.Muted path) (runCommand path command) := by
  cases command with
  | devices => exact listDevices_keeps
  | play choice device volume =>
      exact keeps_of_silent fun _ hbefore => play_silent hbefore choice device volume
  | tone frequency volume milliseconds device =>
      exact keeps_of_silent fun _ hbefore =>
        tone_silent hbefore frequency volume milliseconds device
  | render output choice rate channels volume => exact render_muted choice rate channels volume h
  | save slot text => exact save_muted slot text
  | list slot => exact listSongs_keeps slot
  | settings enable disable volume =>
      obtain rfl : enable = false := h
      exact changeSettings_muted disable volume

theorem run_keeps {P : Disk → Prop} {args : List String} {session : Session}
    (h : ∀ invocation, parse args = .ok invocation →
      Keeps P (runCommand (storePath session.configDirectory invocation.store) invocation.command))
    (hbefore : P session.disk) : P (run args session).2.disk := by
  unfold run
  cases hparse : parse args with
  | error stop => cases stop <;> exact hbefore
  | ok invocation =>
      have hafter := (h invocation hparse).of_run session hbefore
      simp only
      split
      · rename_i hrun
        rw [hrun] at hafter
        exact hafter
      · rename_i hrun
        rw [hrun] at hafter
        exact hafter

theorem run_silent {args : List String} {store : Option String} {command : Command}
    {session : Session} (hasks : Asks args store command)
    (h : Silent (runCommand (storePath session.configDirectory store) command) session) :
    ∃ (code : Nat) (after : Session), after.streams = session.streams ∧
      ∀ host, run args { session with host } = (code, { after with host }) := by
  obtain ⟨verbose, hparse⟩ := hasks
  obtain ⟨result, output, log, hrun⟩ := h
  cases result with
  | error failure =>
      refine ⟨1, { session with output, log, notes := session.notes ++ [failure.report] }, rfl, ?_⟩
      intro host
      simp only [run, hparse, hrun]
  | ok _ =>
      refine ⟨0, { session with output, log }, rfl, ?_⟩
      intro host
      simp only [run, hparse, hrun]

end PulseTracker.Cli
