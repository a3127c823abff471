import PulseTracker.Proofs.Cli.Muting

/-!
# One launch after the other

The program is launched again and again on one store.  None of the launches has anything of the
ones before but the disk.
-/

namespace PulseTracker.Cli

variable {path : String}

structure Launch where
  args : List String
  host : AudioHost
  configDirectory : String
  input : List String

namespace Launch

def session (launch : Launch) (disk : Disk) : Session where
  disk := disk
  host := launch.host
  configDirectory := launch.configDirectory
  input := launch.input
  output := ""
  notes := []
  streams := []
  log := []

@[simp] theorem session_configDirectory (launch : Launch) (disk : Disk) :
    (launch.session disk).configDirectory = launch.configDirectory := rfl

def run (launch : Launch) (disk : Disk) : Nat × Session := Cli.run launch.args (launch.session disk)

def diskAfter (launches : List Launch) (disk : Disk) : Disk :=
  launches.foldl (fun disk launch => (launch.run disk).2.disk) disk

def Asks (launch : Launch) (path : String) (command : Command) : Prop :=
  ∃ store, Cli.Asks launch.args store command ∧ storePath launch.configDirectory store = path

/-- Whatever command it is, the launch runs it on the store in that file and spares it. -/
def Spares (launch : Launch) (path : String) : Prop :=
  ∀ invocation, parse launch.args = .ok invocation →
    storePath launch.configDirectory invocation.store = path ∧ invocation.command.Spares path

/-- The launch does the same whatever the audio host is, and nothing is played. -/
def IsSilent (launch : Launch) (disk : Disk) : Prop :=
  ∃ (code : Nat) (after : Session), after.streams = [] ∧
    ∀ host, { launch with host }.run disk = (code, { after with host })

variable {launch : Launch} {disk : Disk}

theorem run_muted (hspares : launch.Spares path) (h : disk.Muted path) :
    (launch.run disk).2.disk.Muted path := by
  refine run_keeps (fun invocation hparse => ?_) h
  obtain ⟨hpath, hcommand⟩ := hspares invocation hparse
  rw [session_configDirectory, hpath]
  exact runCommand_muted hcommand

theorem spares_of_asks {command : Command} (hasks : launch.Asks path command)
    (hspares : command.Spares path) : launch.Spares path := by
  obtain ⟨store, ⟨verbose, hparse⟩, hpath⟩ := hasks
  intro invocation hinvocation
  obtain rfl := Except.ok.inj (hparse.symm.trans hinvocation)
  exact ⟨hpath, hspares⟩

theorem diskAfter_muted {launches : List Launch} (hspares : ∀ launch ∈ launches, launch.Spares path)
    (h : disk.Muted path) : (diskAfter launches disk).Muted path := by
  induction launches generalizing disk with
  | nil => exact h
  | cons launch launches ih =>
      have hlaunch := run_muted (hspares launch List.mem_cons_self) h
      exact ih (fun later hlater => hspares later (List.mem_cons_of_mem launch hlater)) hlaunch

theorem silent_of_muted {command : Command} (hasks : launch.Asks path command)
    (hheard : command.IsHeard) (h : disk.Muted path) : launch.IsSilent disk := by
  obtain ⟨store, hparse, rfl⟩ := hasks
  have hmuted : (launch.session disk).disk.Muted (storePath launch.configDirectory store) := h
  exact run_silent hparse (runCommand_silent hheard hmuted)

theorem turned_of_asks {enable disable : Bool} {volume : Option Float32}
    (hasks : launch.Asks path (.settings enable disable volume))
    (hturned : (enable || disable) = true) (hdone : (launch.run disk).1 = 0) :
    ∃ store, DiskStore.openAt (launch.run disk).2.disk path = .ok store ∧
      (Settings.load DiskStore.kept store).enabled = enable := by
  obtain ⟨store, hparse, rfl⟩ := hasks
  have hrun : Cli.run launch.args (launch.session disk) = (0, (launch.run disk).2) :=
    Prod.ext hdone rfl
  have hcommand := (run_eq_zero_iff hparse).mp hrun
  rw [runCommand, session_configDirectory] at hcommand
  have hturns := changeSettings_turns (storePath launch.configDirectory store) hturned volume
  have hafter := hturns.of_run (launch.session disk) trivial
  rw [hcommand] at hafter
  exact hafter

end Launch

open Launch in
/--
The sound is turned off in a store with success, whatever was in its file.  Then there are launches
on that store which do not turn it on and do not write their output over its file, in any order and
with any result.  A launch that would be heard next does the same for every audio host and plays
nothing, and once the sound is turned on again with success, it is on in the file.
-/
theorem muting_lasts {path : String} {disk : Disk} {first : Launch} {volume : Option Float32}
    {later : List Launch} (hfirst : first.Asks path (.settings false true volume))
    (hdone : (first.run disk).1 = 0) (hlater : ∀ launch ∈ later, launch.Spares path) :
    let after := diskAfter (first :: later) disk
    (∀ (launch : Launch) (command : Command), launch.Asks path command → command.IsHeard →
      launch.IsSilent after) ∧
    ∀ (last : Launch) (volume : Option Float32), last.Asks path (.settings true false volume) →
      (last.run after).1 = 0 →
      ∃ store, DiskStore.openAt (last.run after).2.disk path = .ok store ∧
        (Settings.load DiskStore.kept store).enabled = true := by
  intro after
  have hfirstMuted : (first.run disk).2.disk.Muted path := turned_of_asks hfirst rfl hdone
  have hmuted : (diskAfter later (first.run disk).2.disk).Muted path :=
    diskAfter_muted hlater hfirstMuted
  constructor
  · intro launch command hasks hheard
    exact silent_of_muted hasks hheard hmuted
  · intro last volume hlast hlastDone
    exact turned_of_asks hlast rfl hlastDone

set_option maxRecDepth 4000 in
open Launch in
theorem muting_lasts_through_writes :
    let disk := Disk.empty.put ["s"] (some (.file "sound_enabled = \"0\"\n".toUTF8))
    let device : OutputDevice :=
      ⟨some "a", .ok [⟨2, 44100, 48000, .i16⟩], .ok ⟨2, 48000, .i16⟩, .ok (), .ok ()⟩
    let launch (args : List String) : Launch := ⟨args, ⟨[device], .ok (), some 0⟩, "", []⟩
    let mute := launch ["--store", "s", "settings", "--disable"]
    let save := launch ["save", "--slot", "1", "tempo=300;p1=60,x,200", "--store", "s"]
    let tune := launch ["settings", "--volume=0.25", "--store=s"]
    let render := launch ["-v", "--store", "s", "render", "--preset", "song2", "-o", "t.wav"]
    let play := launch ["--store", "s", "play", "--slot", "1"]
    let unmute := launch ["--store", "s", "settings", "--enable"]
    mute.Asks "s" (.settings false true none) ∧ (mute.run disk).1 = 0 ∧
      (∀ launch ∈ [save, tune, render], launch.Spares "s") ∧
      play.IsSilent (diskAfter [mute, save, tune, render] disk) ∧
      unmute.Asks "s" (.settings true false none) ∧
      (unmute.run (diskAfter [mute, render] disk)).1 = 0 ∧
      ∃ store,
        DiskStore.openAt (unmute.run (diskAfter [mute, render] disk)).2.disk "s" = .ok store ∧
          (Settings.load DiskStore.kept store).enabled = true := by
  intro disk device launch mute save tune render play unmute
  have hmute : mute.Asks "s" (.settings false true none) := ⟨some "s", ⟨false, by rfl⟩, rfl⟩
  have hdone : (mute.run disk).1 = 0 := by
    simp only [mute, launch, device, disk]
    rfl
  have hsave : save.Asks "s" (.save .first "tempo=300;p1=60,x,200") :=
    ⟨some "s", ⟨false, by rfl⟩, rfl⟩
  have htune : tune.Asks "s" (.settings false false (some 0.25)) :=
    ⟨some "s", ⟨false, by rfl⟩, rfl⟩
  have hrender : render.Asks "s"
      (.render "t.wav" ⟨none, none, some (.song .second), false⟩ 22050 1 none) :=
    ⟨some "s", ⟨true, by rfl⟩, rfl⟩
  have hplay : play.Asks "s" (.play ⟨some .first, none, none, false⟩ ⟨none, none, none⟩ none) :=
    ⟨some "s", ⟨false, by rfl⟩, rfl⟩
  have hunmute : unmute.Asks "s" (.settings true false none) := ⟨some "s", ⟨false, by rfl⟩, rfl⟩
  have hother : (Path.ofText "t.wav").place ≠ (Path.ofText "s").place := by decide
  have hlater : ∀ launch ∈ [save, tune, render], launch.Spares "s" := by
    simp only [List.forall_mem_cons]
    exact ⟨spares_of_asks hsave trivial, spares_of_asks htune rfl, spares_of_asks hrender hother,
      List.forall_mem_nil _⟩
  have hlast : (unmute.run (diskAfter [mute, render] disk)).1 = 0 := by
    simp only [unmute, mute, render, launch, device, disk]
    rfl
  have hsilent := (muting_lasts hmute hdone hlater).1 play _ hplay trivial
  have hrendered : ∀ launch ∈ [render], launch.Spares "s" := fun launch hlaunch =>
    hlater launch (List.mem_of_mem_drop (i := 2) hlaunch)
  have hturned := (muting_lasts hmute hdone hrendered).2 unmute none hunmute hlast
  exact ⟨hmute, hdone, hlater, hsilent, hunmute, hlast, hturned⟩

set_option maxRecDepth 4000 in
open Launch in
/-- A wave file that is written over the store is a text that holds no table, so the sound is on
again and a device is opened. -/
theorem muting_ends_by_rendering_over_the_store :
    let disk := Disk.empty.put ["s"] (some (.file "sound_enabled = \"0\"\n".toUTF8))
    let device : OutputDevice :=
      ⟨some "a", .ok [⟨2, 44100, 48000, .i16⟩], .ok ⟨2, 48000, .i16⟩, .ok (), .ok ()⟩
    let launch (args : List String) : Launch := ⟨args, ⟨[device], .ok (), some 0⟩, "", []⟩
    let mute := launch ["--store", "s", "settings", "--disable"]
    let render :=
      launch ["--store", "s", "render", "--preset", "song1", "--sample-rate", "50", "-o", "s"]
    let play := launch ["--store", "s", "play", "--preset", "song1"]
    mute.Asks "s" (.settings false true none) ∧ (mute.run disk).1 = 0 ∧
      render.Asks "s" (.render "s" ⟨none, none, some (.song .first), false⟩ 50 1 none) ∧
      (render.run (diskAfter [mute] disk)).1 = 0 ∧
      play.Asks "s" (.play ⟨none, none, some (.song .first), false⟩ ⟨none, none, none⟩ none) ∧
      ((play.run (diskAfter [mute, render] disk)).2.streams.map fun stream => stream.config) =
        [⟨2, 48000, .i16⟩] ∧
      ¬ play.IsSilent (diskAfter [mute, render] disk) := by
  intro disk device launch mute render play
  have hmute : (mute.run disk).1 = 0 := by
    simp only [mute, launch, device, disk]
    rfl
  have hrender : (render.run (diskAfter [mute] disk)).1 = 0 := by
    simp only [render, mute, launch, device, disk]
    rfl
  have hstreams : (play.run (diskAfter [mute, render] disk)).2.streams.map
      (fun stream => stream.config) = [⟨2, 48000, .i16⟩] := by
    simp only [play, render, mute, launch, device, disk]
    rfl
  refine ⟨⟨some "s", ⟨false, by rfl⟩, rfl⟩, hmute, ⟨some "s", ⟨false, by rfl⟩, rfl⟩, hrender,
    ⟨some "s", ⟨false, by rfl⟩, rfl⟩, hstreams, ?_⟩
  rintro ⟨code, after, hnone, hrun⟩
  have hplay : play.run (diskAfter [mute, render] disk) =
      (code, { after with host := play.host }) := hrun play.host
  rw [hplay] at hstreams
  simp only [hnone] at hstreams
  cases hstreams

end PulseTracker.Cli
