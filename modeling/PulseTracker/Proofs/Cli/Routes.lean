import PulseTracker.Cli.Run
import PulseTracker.Proofs.Cli.Action
import PulseTracker.Proofs.Song.Loading
import PulseTracker.Proofs.Song.Saved
import PulseTracker.Proofs.Store.WriteThrough
import PulseTracker.Proofs.Wave.Take

/-!
# Rendering a saved song

A song that was saved can be rendered by its slot, by its text, and as a boot sound.  The three
go different ways: the text may be read again, or come back from the file of the store, and a
boot sound has a volume and a way to play of its own.  They end in the same file.
-/

namespace PulseTracker.Cli

open PulseTracker.Cli.Action

def Asks (args : List String) (store : Option String) (command : Command) : Prop :=
  ∃ verbose, parse args = .ok { store, verbose, command }

/-! ## Opening and saving -/

@[simp] theorem run_openStore (path : String) (session : Session) :
    (openStore path).run.run session =
      ((DiskStore.openAt session.disk path).mapError .audio,
        { session with log := session.log ++ openRecords session.disk path }) := by
  simp only [openStore, run_bind, run_get, run_record, run_ofResult]

theorem save_ok {path text : String} {slot : Slot} {session saved : Session}
    (h : (save path slot text).run.run session = (.ok (), saved)) :
    ∃ store last, DiskStore.openAt session.disk path = .ok store ∧
      slot.save (Song.ofText text) DiskStore.kept store = (.ok (), last) ∧
      saved.disk = last.disk ∧ saved.configDirectory = session.configDirectory := by
  simp only [save, run_bind, run_openStore] at h
  cases hopen : DiskStore.openAt session.disk path with
  | error error =>
      rw [hopen] at h
      cases h
  | ok store =>
      rw [hopen] at h
      cases hsave : slot.save (Song.ofText text) DiskStore.kept store with
      | mk result last =>
          simp only [Except.mapError, hsave, run_record, run_putDisk, run_ofResult] at h
          cases result with
          | error error => cases h
          | ok _ =>
              cases h
              exact ⟨store, last, rfl, hsave, rfl, rfl⟩

theorem load_after_save {path text : String} {slot : Slot} {session saved : Session}
    (h : (save path slot text).run.run session = (.ok (), saved)) :
    ∃ store, DiskStore.openAt saved.disk path = .ok store ∧
      slot.load DiskStore.kept store = some (Song.ofText text) := by
  obtain ⟨first, store, hopen, hsave, hdisk, -⟩ := save_ok h
  have hset : first.set slot.key (Song.ofText text).toText = (.ok (), store) := hsave
  have hagain := DiskStore.openAt_of_set hset
  rw [DiskStore.openAt_path hopen, ← hdisk] at hagain
  have hload := Slot.load_of_save DiskStore.kept_lawful.givesBack hsave
  have hsame : (Song.ofText text).normalized = Song.ofText text :=
    (Song.normalized_eq_self_iff _).mpr (Song.ofChars_canonical text.toList)
  rw [hsame] at hload
  exact ⟨store, hagain, hload⟩

/-! ## Rendering -/

theorem run_render {path output : String} {choice : SongChoice} {session : Session}
    {store : DiskStore} {piece : Piece} (rate : UInt32) (channels : UInt16)
    (volume : Option Float32) (hopen : DiskStore.openAt session.disk path = .ok store)
    (hpiece : choice.resolve store = .ok piece) :
    (render path output choice rate channels volume).run.run session =
      (renderPiece store piece output rate channels volume).run.run
        { session with log := session.log ++ openRecords session.disk path } := by
  simp only [render, run_bind, run_openStore, hopen, Except.mapError, run_mk, hpiece]

theorem play_boot_song {store : Store κ} {kept : κ} {slot : Slot} {song : Song}
    (hload : slot.load store kept = some song) (sink : Sink ω) (volume : Float32) (out : ω) :
    let outcome := (SongStream.start sink.rate song true).play sink volume neverCancelled out
    (BootSound.song slot).play sink store kept volume out = (outcome.result, outcome.out) ∧
      (BootSound.song slot).records sink store kept volume outcome.result =
        streamRecords sink (SongStream.start sink.rate song true).total volume outcome.result := by
  intro outcome
  have hreport : ((outcome.result.map some).map fun report => report.getD default) =
      outcome.result := by
    cases outcome.result <;> rfl
  simp only [BootSound.play, BootSound.records, Slot.play, Slot.records, hload]
  exact ⟨Prod.ext hreport rfl, congrArg _ hreport⟩

theorem run_renderPiece_boot {store : DiskStore} {slot : Slot} {song : Song}
    (hload : slot.load DiskStore.kept store = some song) (output : String) (rate : UInt32)
    (channels : UInt16) (volume : Option Float32) (session : Session) :
    (renderPiece store (.boot (.song slot)) output rate channels volume).run.run session =
      (renderPiece store (.song song true) output rate channels volume).run.run session := by
  simp only [renderPiece, run_bind, run_get, run_ofResult]
  cases hcreate : WaveFile.create session.disk output rate channels with
  | error error => rfl
  | ok created =>
      obtain ⟨file, disk⟩ := created
      obtain ⟨rfl, -⟩ := WaveFile.create_ok hcreate
      obtain ⟨hplay, hrecords⟩ := play_boot_song hload
        (WaveFile.sink ⟨output, rate, max 1 channels⟩) (volume.getD BootSound.songVolume)
        WaveFile.emptyTake
      simp only [Except.mapError, run_putDisk, Piece.volume, BootSound.volume, hplay, hrecords]
      rfl

theorem run_renderPiece_song {song : Song} (hsteps : song.pattern.steps = 16) (store : DiskStore)
    (sine : Bool) {output : String} (rate : UInt32) (channels : UInt16) (volume : Option Float32)
    (session : Session) {made : Disk} (hmade : session.disk.write output .empty = .ok made) :
    let file : WaveFile := ⟨output, rate, max 1 channels⟩
    let take := file.songTake song sine (volume.getD BootSound.songVolume)
    ∃ disk log, session.disk.write output (file.contents take) = .ok disk ∧
      (renderPiece store (.song song sine) output rate channels volume).run.run session =
        (.ok (),
          { session with
            disk
            output := session.output ++
              s!"Wrote {take.frames} frames @ {rate} Hz to {output}" ++ "\n"
            log }) := by
  intro file take
  have hwidth : file.sink.width = file.channels.toNat :=
    WaveFile.create_width output rate channels
  obtain ⟨hresult, hout⟩ :=
    file.play_song hwidth hsteps sine (volume.getD BootSound.songVolume)
  have hframed : take.Framed file.channels.toNat := hwidth ▸ file.songTake_framed song sine _
  have hpath : session.disk.write file.path .empty = .ok made := hmade
  obtain ⟨disk, hwrite, hclose⟩ := WaveFile.close_of_write hpath hframed
  have hcreate : WaveFile.create session.disk output rate channels = .ok (file, made) := by
    simp only [WaveFile.create, hmade, file]
  refine ⟨disk, session.log ++ streamRecords file.sink (SongStream.start rate song sine).total
    (volume.getD BootSound.songVolume) (.ok ⟨(SongStream.start rate song sine).total, false⟩),
    hwrite, ?_⟩
  simp only [renderPiece, run_bind, run_get, run_ofResult, hcreate, Except.mapError, run_putDisk,
    run_record, run_discard, Piece.volume]
  rw [show SongStream.start rate song sine = SongStream.start file.rate song sine from rfl]
  simp only [hresult, hout, run_pure]
  rw [show file.songTake song sine (volume.getD BootSound.songVolume) = take from rfl, hclose]
  rfl

/-! ## The routes -/

theorem run_congr {args others : List String} {store : Option String} {command other : Command}
    (h : Asks args store command) (hother : Asks others store other) {session : Session}
    (hsame : (runCommand (storePath session.configDirectory store) command).run.run session =
      (runCommand (storePath session.configDirectory store) other).run.run session) :
    run args session = run others session := by
  obtain ⟨_, hparse⟩ := h
  obtain ⟨_, hparse'⟩ := hother
  simp only [run, hparse, hparse', hsame]

theorem run_eq_zero_iff {args : List String} {store : Option String} {command : Command}
    (h : Asks args store command) {session after : Session} :
    run args session = (0, after) ↔
      (runCommand (storePath session.configDirectory store) command).run.run session =
        (.ok (), after) := by
  obtain ⟨_, hparse⟩ := h
  simp only [run, hparse]
  cases (runCommand (storePath session.configDirectory store) command).run.run session with
  | mk result left =>
      cases result with
      | error failure => constructor <;> rintro ⟨⟩
      | ok _ => constructor <;> (rintro ⟨⟩; rfl)

/--
A song was saved in a slot.  The text it was saved from renders as the slot does, whatever the
output, the rate, the channels and the volume are and with a sine or without: the session is the
same afterwards, its files, what was printed and the exit code.  For a sine the boot sound of the
slot does so too.  If the output can be written at all, the file is the song with silence around
it and nothing else changes on the disk, and the frames that are printed are those of the file.
-/
theorem render_by_any_route {saveArgs slotArgs songArgs sineArgs bootArgs : List String}
    {session saved : Session} {store : Option String} {slot : Slot} {text output : String}
    {rate : UInt32} {channels : UInt16} {volume : Option Float32} {sine bootSine : Bool}
    (hsave : Asks saveArgs store (.save slot text)) (hsaved : run saveArgs session = (0, saved))
    (hslot : Asks slotArgs store
      (.render output ⟨some slot, none, none, sine⟩ rate channels volume))
    (hsong : Asks songArgs store
      (.render output ⟨none, some text, none, sine⟩ rate channels volume))
    (hsine : Asks sineArgs store
      (.render output ⟨some slot, none, none, true⟩ rate channels volume))
    (hboot : Asks bootArgs store
      (.render output ⟨none, none, some (.song slot), bootSine⟩ rate channels volume)) :
    run songArgs saved = run slotArgs saved ∧ run bootArgs saved = run sineArgs saved ∧
      ∀ made, saved.disk.write output .empty = .ok made →
        let file : WaveFile := ⟨output, rate, max 1 channels⟩
        let take := file.songTake (.ofText text) sine (volume.getD BootSound.songVolume)
        take.samples.size = take.frames * file.channels.toNat ∧
        ∃ disk log, saved.disk.write output (file.contents take) = .ok disk ∧
          run slotArgs saved =
            (0,
              { saved with
                disk
                output := saved.output ++
                  s!"Wrote {take.frames} frames @ {rate} Hz to {output}" ++ "\n"
                log }) := by
  have hcommand : (save (storePath session.configDirectory store) slot text).run.run session =
      (.ok (), saved) := (run_eq_zero_iff hsave).mp hsaved
  obtain ⟨_, _, _, _, _, hdirectory⟩ := save_ok hcommand
  obtain ⟨last, hopen, hload⟩ := load_after_save hcommand
  rw [← hdirectory] at hopen
  have hslotPiece (sine : Bool) : SongChoice.resolve ⟨some slot, none, none, sine⟩ last =
      .ok (.song (.ofText text) sine) := by
    simp only [SongChoice.resolve, hload]
  have hsongPiece : SongChoice.resolve ⟨none, some text, none, sine⟩ last =
      .ok (.song (.ofText text) sine) := rfl
  have hbootPiece : SongChoice.resolve ⟨none, none, some (.song slot), bootSine⟩ last =
      .ok (.boot (.song slot)) := rfl
  refine ⟨run_congr hsong hslot ?_, run_congr hboot hsine ?_, ?_⟩
  · exact (run_render rate channels volume hopen hsongPiece).trans
      (run_render rate channels volume hopen (hslotPiece sine)).symm
  · rw [runCommand, runCommand, run_render rate channels volume hopen hbootPiece,
      run_render rate channels volume hopen (hslotPiece true), run_renderPiece_boot hload]
  · intro made hmade file take
    have hframed := file.songTake_framed (.ofText text) sine (volume.getD BootSound.songVolume)
    rw [WaveFile.create_width] at hframed
    have hsteps : (Song.ofText text).pattern.steps = 16 := rfl
    obtain ⟨disk, log, hwrite, hrender⟩ :=
      run_renderPiece_song hsteps last sine rate channels volume
        { saved with
          log := saved.log ++ openRecords saved.disk (storePath saved.configDirectory store) }
        hmade
    refine ⟨hframed, disk, log, hwrite, (run_eq_zero_iff hslot).mpr ?_⟩
    rw [runCommand, run_render rate channels volume hopen (hslotPiece sine)]
    exact hrender

set_option maxRecDepth 4000 in
theorem render_by_any_route_in_stereo :
    let session : Session :=
      ⟨Disk.empty.put ["s"] (some (.file "no table".toUTF8)), .silent, "", [], "", [], [], []⟩
    let saveArgs := ["--store=s", "save", "--slot", "2", "tempo=300;p1=60,x,200"]
    let slotArgs :=
      ["render", "-ot.wav", "--slot=2", "--sine", "--channels=2", "--volume", "0.5", "--store", "s"]
    let songArgs :=
      ["-v", "--store=s", "render", "--song", "tempo=300;p1=60,x,200", "--sine", "-o=t.wav",
        "--channels", "2", "--volume=.5"]
    let bootArgs :=
      ["--store", "s", "render", "--preset= Song2", "--channels=2", "--volume=5e-1",
        "--output=t.wav"]
    let saved := (run saveArgs session).2
    let file : WaveFile := ⟨"t.wav", 22050, 2⟩
    let take := file.songTake (.ofText "tempo=300;p1=60,x,200") true 0.5
    Asks saveArgs (some "s") (.save .second "tempo=300;p1=60,x,200") ∧
      run saveArgs session = (0, saved) ∧
      Asks slotArgs (some "s")
        (.render "t.wav" ⟨some .second, none, none, true⟩ 22050 2 (some 0.5)) ∧
      Asks songArgs (some "s")
        (.render "t.wav" ⟨none, some "tempo=300;p1=60,x,200", none, true⟩ 22050 2 (some 0.5)) ∧
      Asks bootArgs (some "s")
        (.render "t.wav" ⟨none, none, some (.song .second), false⟩ 22050 2 (some 0.5)) ∧
      run songArgs saved = run slotArgs saved ∧ run bootArgs saved = run slotArgs saved ∧
      ∃ disk, saved.disk.write "t.wav" (file.contents take) = .ok disk ∧
        (run slotArgs saved).1 = 0 ∧ (run slotArgs saved).2.disk = disk := by
  intro session saveArgs slotArgs songArgs bootArgs saved file take
  have hsave : Asks saveArgs (some "s") (.save .second "tempo=300;p1=60,x,200") := ⟨false, by rfl⟩
  have hcode : (run saveArgs session).1 = 0 := by
    simp only [saveArgs, session]
    rfl
  have hsaved : run saveArgs session = (0, saved) := Prod.ext hcode rfl
  have hslot : Asks slotArgs (some "s")
      (.render "t.wav" ⟨some .second, none, none, true⟩ 22050 2 (some 0.5)) := ⟨false, by rfl⟩
  have hsong : Asks songArgs (some "s")
      (.render "t.wav" ⟨none, some "tempo=300;p1=60,x,200", none, true⟩ 22050 2 (some 0.5)) :=
    ⟨true, by rfl⟩
  have hboot : Asks bootArgs (some "s")
      (.render "t.wav" ⟨none, none, some (.song .second), false⟩ 22050 2 (some 0.5)) :=
    ⟨false, by rfl⟩
  obtain ⟨htext, hsound, hfile⟩ := render_by_any_route hsave hsaved hslot hsong hslot hboot
  have hfree : (saved.disk.write "t.wav" .empty).isOk := by
    simp only [saved, saveArgs, session]
    rfl
  cases hmade : saved.disk.write "t.wav" .empty with
  | error error =>
      rw [hmade] at hfree
      cases hfree
  | ok made =>
      obtain ⟨-, after, log, hwrite, hrun⟩ := hfile made hmade
      exact ⟨hsave, hsaved, hslot, hsong, hboot, htext, hsound, after, hwrite, by rw [hrun],
        by rw [hrun]⟩

end PulseTracker.Cli
