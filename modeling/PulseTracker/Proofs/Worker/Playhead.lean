import PulseTracker.Proofs.Song.Progress
import PulseTracker.Proofs.Worker.Failure

/-!
# The step that a background song publishes

Whenever the thread has filled a chunk it writes the step it has come to into a cell, and the owner
reads the cell when it likes.  Nothing that is read is older than what was read before, and when a
song was not stopped the last step is there at the end.
-/

namespace PulseTracker

/-- The greatest word; in the cell it stands for no step. -/
def noStep : Nat := Synth.countMax

def stepOfCell (cell : Nat) : Option Nat := if cell = noStep then none else some cell

theorem stepOfCell_noStep : stepOfCell noStep = none := if_pos rfl

/-! ## Steps that full chunks lead to -/

namespace Song

def samplesAfter (song : Song) (rate : UInt32) (fills : Nat) : Nat :=
  min ((Synth.ofRate rate).stepLength song.tempo * song.pattern.steps) (chunkMax * fills)

def stepAfter (song : Song) (rate : UInt32) (fills : Nat) : Nat :=
  min (song.samplesAfter rate fills / (Synth.ofRate rate).stepLength song.tempo)
    (song.pattern.steps - 1)

def shownAfter (song : Song) (rate : UInt32) : Nat → Option Nat
  | 0 => none
  | fills + 1 => some (song.stepAfter rate (fills + 1))

variable {song : Song} {rate : UInt32}

theorem samplesAfter_zero : song.samplesAfter rate 0 = 0 := Nat.min_zero _

theorem stepAfter_mono {fills more : Nat} (h : fills ≤ more) :
    song.stepAfter rate fills ≤ song.stepAfter rate more := by
  have hsamples : song.samplesAfter rate fills ≤ song.samplesAfter rate more := by
    unfold samplesAfter
    have hchunks := Nat.mul_le_mul_left chunkMax h
    omega
  have hsteps := Nat.div_le_div_right (c := (Synth.ofRate rate).stepLength song.tempo) hsamples
  unfold stepAfter
  omega

theorem stepAfter_lt (hsteps : 0 < song.pattern.steps) (fills : Nat) :
    song.stepAfter rate fills < song.pattern.steps := by
  unfold stepAfter
  omega

theorem shownAfter_of_all (hsteps : 0 < song.pattern.steps) {fills : Nat}
    (hall : song.samplesAfter rate fills =
      (Synth.ofRate rate).stepLength song.tempo * song.pattern.steps) :
    song.shownAfter rate fills = some (song.pattern.steps - 1) := by
  have hpos := (Synth.ofRate rate).stepLength_pos song.tempo
  cases fills with
  | zero =>
      rw [samplesAfter_zero] at hall
      exact absurd hall (Nat.ne_of_lt (Nat.mul_pos hpos hsteps))
  | succ fills =>
      rw [shownAfter, stepAfter, hall, Nat.mul_div_cancel_left _ hpos,
        Nat.min_eq_right (Nat.sub_le ..)]

theorem playhead_after (sine : Bool) (hsteps : 0 < song.pattern.steps) (fills : Nat) :
    ((SongStream.start rate song sine).next (song.samplesAfter rate fills)).1.playhead =
      song.shownAfter rate fills := by
  have hsize : ((SongStream.start rate song sine).next (song.samplesAfter rate fills)).2.size =
      song.samplesAfter rate fills := by
    rw [SongStream.next_size, SongStream.start_upcoming_length]
    exact Nat.min_eq_left (Nat.min_le_left ..)
  cases fills with
  | zero =>
      rw [samplesAfter_zero, SongStream.next_zero]
      rfl
  | succ fills =>
      have hsome : 0 < song.samplesAfter rate (fills + 1) := by
        have hpos := Nat.mul_pos ((Synth.ofRate rate).stepLength_pos song.tempo) hsteps
        unfold samplesAfter chunkMax
        omega
      rw [← hsize] at hsome
      rw [SongStream.start_next_playhead rate song sine hsome, hsize]
      rfl

end Song

/-! ## The stream of the thread -/

namespace SongWorker

def fillsNext (cancel : Bool) (worker : SongWorker ω) : Bool :=
  match worker.stage with
  | .poll remaining _ _ => remaining != 0 && !cancel
  | _ => false

/-- What the stage of a thread says when its stream has made `count` of `total` samples. -/
def Accounts (total count : Nat) (stopped : Bool) : SongStage → Prop
  | .prime => count = 0
  | .poll remaining frames _ => remaining + frames = total ∧ frames = count
  | .deliver _ remaining frames _ => remaining + frames = total ∧ frames = count
  | .tail report | .flush report | .done (.ok report) =>
      (report.cancelled = true → stopped = true) ∧ (report.cancelled = false → count = total)
  | .done (.error _) | .crashed => True

structure Counted (rate : UInt32) (song : Song) (sine stopped : Bool) (fills : Nat)
    (worker : SongWorker ω) : Prop where
  stream : worker.stream =
    ((SongStream.start rate song sine).next (song.samplesAfter rate fills)).1
  playhead : worker.playhead = song.shownAfter rate fills
  stage : Accounts ((Synth.ofRate rate).stepLength song.tempo * song.pattern.steps)
    (song.samplesAfter rate fills) stopped worker.stage

variable {rate : UInt32} {song : Song} {sine stopped : Bool} {fills : Nat}
  {sink : Sink ω} {volume : Float32}

theorem start_counted (sink : Sink ω) (song : Song) (volume : Float32) (sine : Bool) (out : ω) :
    (start sink song volume sine out).Counted sink.rate song sine false 0 where
  stream := by
    rw [Song.samplesAfter_zero, SongStream.next_zero]
    rfl
  playhead := rfl
  stage := Song.samplesAfter_zero

theorem Counted.stop {worker : SongWorker ω} (h : worker.Counted rate song sine stopped fills) :
    worker.Counted rate song sine true fills where
  stream := h.stream
  playhead := h.playhead
  stage := by
    have hstage := h.stage
    obtain ⟨stage, stream, playhead, out, log⟩ := worker
    cases stage with
    | prime | poll _ _ _ | deliver _ _ _ _ | crashed => exact hstage
    | tail report | flush report => exact ⟨fun _ => rfl, hstage.2⟩
    | done result =>
        cases result with
        | error _ => trivial
        | ok report => exact ⟨fun _ => rfl, hstage.2⟩

theorem afterWrite_keeps {P : SongWorker ω → Prop} {worker : ω → SongWorker ω}
    {outcome : Except SoundError Unit × ω} {next : SongStage}
    (hfail : ∀ error out, P ((worker out).fail error))
    (hnext : ∀ out, P { worker out with stage := next }) : P (afterWrite worker outcome next) := by
  obtain ⟨result, out⟩ := outcome
  cases result with
  | error error => exact hfail error out
  | ok _ => exact hnext out

theorem Counted.step (hfit : (Synth.ofRate rate).stepLength song.tempo * song.pattern.steps ≤
      Synth.countMax) {worker : SongWorker ω}
    (h : worker.Counted rate song sine stopped fills) (hidle : worker.fillsNext stopped = false) :
    (worker.step sink volume stopped).Counted rate song sine stopped fills := by
  obtain ⟨hstream, hplayhead, hstage⟩ := h
  obtain ⟨stage, stream, playhead, out, log⟩ := worker
  cases stage with
  | prime =>
      have htotal : stream.total =
          (Synth.ofRate rate).stepLength song.tempo * song.pattern.steps := by
        rw [show stream = _ from hstream]
        exact Synth.patternLength_eq _ _ _ hfit
      exact afterWrite_keeps (fun _ _ => ⟨hstream, hplayhead, trivial⟩)
        fun _ => ⟨hstream, hplayhead, htotal, Eq.symm hstage⟩
  | poll remaining frames scratch =>
      obtain ⟨hcount, hframes⟩ := hstage
      simp only [SongWorker.step]
      by_cases hremaining : remaining = 0
      · rw [if_pos hremaining]
        refine ⟨hstream, hplayhead, fun hcancelled => absurd hcancelled Bool.false_ne_true, ?_⟩
        intro _
        omega
      · have hstopped : stopped = true := by simpa [fillsNext, hremaining] using hidle
        rw [if_neg hremaining, if_pos hstopped]
        exact ⟨hstream, hplayhead, fun _ => hstopped, fun hnot => absurd hnot Bool.noConfusion⟩
  | deliver samples remaining frames scratch =>
      exact afterWrite_keeps (fun _ _ => ⟨hstream, hplayhead, trivial⟩)
        fun _ => ⟨hstream, hplayhead, hstage⟩
  | tail report =>
      simp only [SongWorker.step]
      split
      · exact ⟨hstream, hplayhead, trivial⟩
      · exact ⟨hstream, hplayhead, hstage⟩
  | flush report =>
      exact afterWrite_keeps (fun _ _ => ⟨hstream, hplayhead, trivial⟩)
        fun _ => ⟨hstream, hplayhead, hstage⟩
  | done result => exact ⟨hstream, hplayhead, hstage⟩
  | crashed => exact ⟨hstream, hplayhead, hstage⟩

theorem stage_of_result {worker : SongWorker ω} {report : Report}
    (h : worker.result = .ok report) : worker.stage = .done (.ok report) := by
  obtain ⟨stage, stream, playhead, out, log⟩ := worker
  cases stage with
  | done result => exact congrArg _ h
  | prime | poll _ _ _ | deliver _ _ _ _ | tail _ | flush _ | crashed => cases h

theorem Counted.fill (sink : Sink ω) (volume : Float32) (hsteps : 0 < song.pattern.steps)
    {worker : SongWorker ω} (h : worker.Counted rate song sine stopped fills)
    (hfills : worker.fillsNext stopped = true) :
    (worker.step sink volume stopped).Counted rate song sine stopped (fills + 1) ∧
      (worker.step sink volume stopped).writesNext := by
  obtain ⟨hstream, hplayhead, hstage⟩ := h
  obtain ⟨stage, stream, playhead, out, log⟩ := worker
  cases stage with
  | poll remaining frames scratch =>
      obtain ⟨hcount, hframes⟩ := hstage
      obtain ⟨hremaining, hstopped⟩ : remaining ≠ 0 ∧ stopped = false := by
        simpa [fillsNext] using hfills
      let worker : SongWorker ω := ⟨.poll remaining frames scratch, stream, playhead, out, log⟩
      have hwhole := SongStream.start_upcoming_length rate song sine
      have hupcoming :
          stream.upcoming = (SongStream.start rate song sine).upcoming.drop frames := by
        rw [show stream = _ from hstream, hframes]
        exact (SongStream.next_upcoming _ _).2
      obtain ⟨scratch', hdeliver, -⟩ :=
        fill_stage worker volume scratch hremaining (hcount.trans hwhole.symm) hupcoming
      -- every chunk but the last is as long as it can be, so the samples so far say how long it is
      have hafter : song.samplesAfter rate fills + min remaining chunkMax =
          song.samplesAfter rate (fills + 1) := by
        unfold Song.samplesAfter at hframes ⊢
        unfold chunkMax at hframes ⊢
        omega
      have hnext : (worker.fill volume remaining frames scratch).stream =
          ((SongStream.start rate song sine).next (song.samplesAfter rate (fills + 1))).1 := by
        rw [← hafter, SongStream.next_split, ← show stream = _ from hstream]
        rfl
      have hstep : SongWorker.step sink volume stopped worker =
          worker.fill volume remaining frames scratch := by
        simp only [SongWorker.step, worker, if_neg hremaining, hstopped, if_neg Bool.false_ne_true]
      rw [hstep]
      refine ⟨⟨hnext, ?_, ?_⟩, ?_⟩
      · show (worker.fill volume remaining frames scratch).stream.playhead.or playhead = _
        rw [hnext, Song.playhead_after sine hsteps]
        rfl
      · rw [hdeliver]
        exact ⟨by omega, by omega⟩
      · unfold writesNext
        rw [hdeliver]
  | prime | deliver _ _ _ _ | tail _ | flush _ | done _ | crashed => cases hfills

end SongWorker

/-! ## The owner and the thread -/

/-- What happens to a background song, one thing at a time: the owner reads the cell or raises the
flag, or the thread takes a step, in which it touches the flag or the cell at most once. -/
inductive PlayMove where
  | read
  | stop
  | work
  deriving DecidableEq

structure WatchedSong (ω : Type) where
  worker : SongWorker ω
  stopped : Bool
  cell : Nat
  /-- The playhead after a chunk that was filled; the thread writes it to the cell next. -/
  unstored : Option Nat
  /-- For each chunk that was filled the step of the cursor, at most the last one. -/
  reached : List Nat
  reads : List (Option Nat)

namespace WatchedSong

def start (worker : SongWorker ω) : WatchedSong ω := ⟨worker, false, noStep, none, [], []⟩

def found (watched : WatchedSong ω) : Option Nat := stepOfCell watched.cell

def work (sink : Sink ω) (volume : Float32) (watched : WatchedSong ω) : WatchedSong ω :=
  match watched.unstored with
  | some step => { watched with cell := step, unstored := none }
  | none =>
      let worker := watched.worker.step sink volume watched.stopped
      if watched.worker.fillsNext watched.stopped then
        { watched with
          worker
          unstored := worker.stream.playhead
          reached := watched.reached ++
            [min worker.stream.cursor.step (worker.stream.song.pattern.steps - 1)] }
      else { watched with worker }

def move (sink : Sink ω) (volume : Float32) (watched : WatchedSong ω) : PlayMove → WatchedSong ω
  | .read => { watched with reads := watched.reads ++ [watched.found] }
  | .stop => { watched with stopped := true }
  | .work => watched.work sink volume

def run (sink : Sink ω) (volume : Float32) (moves : List PlayMove) (watched : WatchedSong ω) :
    WatchedSong ω :=
  moves.foldl (move sink volume) watched

end WatchedSong

/-! ## What is read -/

/-- Reads that found nothing at first and then steps, none of them before an earlier one or behind
the step that is shown now. -/
def ReadsUpTo (shown : Option Nat) (reads : List (Option Nat)) : Prop :=
  ∃ (silent : Nat) (steps : List Nat), reads = List.replicate silent none ++ steps.map some ∧
    steps.Pairwise (· ≤ ·) ∧ ∀ step ∈ steps, ∃ now, shown = some now ∧ step ≤ now

theorem ReadsUpTo.read {shown : Option Nat} {reads : List (Option Nat)}
    (h : ReadsUpTo shown reads) : ReadsUpTo shown (reads ++ [shown]) := by
  obtain ⟨silent, steps, hreads, hordered, hlast⟩ := h
  cases shown with
  | none =>
      have hnone : steps = [] := List.eq_nil_iff_forall_not_mem.mpr fun step hstep => by
        obtain ⟨now, hnow, -⟩ := hlast step hstep
        cases hnow
      subst hnone
      refine ⟨silent + 1, [], ?_, .nil, by simp⟩
      rw [hreads, List.map_nil, List.append_nil, List.append_nil, List.replicate_succ']
  | some now =>
      have hle : ∀ step ∈ steps, step ≤ now := fun step hstep => by
        obtain ⟨_, hnow, hle⟩ := hlast step hstep
        cases hnow
        exact hle
      refine ⟨silent, steps ++ [now], ?_, ?_, ?_⟩
      · rw [hreads, List.map_append, List.append_assoc]
        rfl
      · exact List.pairwise_append.mpr ⟨hordered, List.pairwise_singleton .., by simpa using hle⟩
      · intro step hstep
        rcases List.mem_append.mp hstep with hold | hnew
        · exact ⟨now, rfl, hle step hold⟩
        · exact ⟨now, rfl, Nat.le_of_eq (List.mem_singleton.mp hnew)⟩

theorem ReadsUpTo.later {song : Song} {rate : UInt32} {fills more : Nat}
    {reads : List (Option Nat)} (h : ReadsUpTo (song.shownAfter rate fills) reads)
    (hmore : fills ≤ more) : ReadsUpTo (song.shownAfter rate more) reads := by
  obtain ⟨silent, steps, hreads, hordered, hlast⟩ := h
  refine ⟨silent, steps, hreads, hordered, fun step hstep => ?_⟩
  obtain ⟨now, hnow, hle⟩ := hlast step hstep
  cases fills with
  | zero => cases hnow
  | succ fills =>
      cases hnow
      obtain ⟨more, rfl⟩ := Nat.exists_eq_succ_of_ne_zero (Nat.ne_of_gt (Nat.lt_of_lt_of_le
        (Nat.succ_pos fills) hmore))
      exact ⟨_, rfl, Nat.le_trans hle (Song.stepAfter_mono hmore)⟩

namespace WatchedSong

/-- The cell shows what the last chunk has led to, or the chunk before it while the thread has yet
to write it. -/
def Shows (song : Song) (rate : UInt32) (fills : Nat) (watched : WatchedSong ω) : Prop :=
  match watched.unstored with
  | none => watched.found = song.shownAfter rate fills
  | some step =>
      song.shownAfter rate fills = some step ∧
        watched.found = song.shownAfter rate (fills - 1) ∧ watched.worker.writesNext

theorem Shows.stores {song : Song} {rate : UInt32} {fills : Nat} {watched : WatchedSong ω}
    (h : watched.Shows song rate fills) :
    ∃ stores, (stores = fills ∨ stores + 1 = fills) ∧
      watched.found = song.shownAfter rate stores := by
  unfold Shows at h
  split at h
  · exact ⟨fills, Or.inl rfl, h⟩
  · obtain ⟨hshown, hfound, -⟩ := h
    cases fills with
    | zero => cases hshown
    | succ fills => exact ⟨fills, Or.inr rfl, hfound⟩

structure Sound (rate : UInt32) (song : Song) (sine : Bool) (fills : Nat)
    (watched : WatchedSong ω) : Prop where
  worker : watched.worker.Counted rate song sine watched.stopped fills
  reached : watched.reached = (List.range fills).map fun chunk => song.stepAfter rate (chunk + 1)
  shows : watched.Shows song rate fills
  reads : ReadsUpTo watched.found watched.reads
  read_reached : ∀ step, some step ∈ watched.reads → step ∈ watched.reached

section Sound

variable {rate : UInt32} {song : Song} {sine : Bool} {fills : Nat} {watched : WatchedSong ω}
  {sink : Sink ω} {volume : Float32}

theorem Sound.found_eq (h : watched.Sound rate song sine fills) :
    ∃ stores, (stores = watched.reached.length ∨ stores + 1 = watched.reached.length) ∧
      watched.found = (watched.reached.take stores).getLast? := by
  obtain ⟨stores, hstores, hfound⟩ := h.shows.stores
  have hlength : watched.reached.length = fills := by rw [h.reached]; simp
  refine ⟨stores, by omega, ?_⟩
  rw [hfound, h.reached, ← List.map_take, List.take_range, Nat.min_eq_left (by omega)]
  cases stores with
  | zero => rfl
  | succ stores =>
      rw [List.range_succ, List.map_append, List.map_singleton, List.getLast?_concat]
      rfl

theorem Sound.mem_reached (h : watched.Sound rate song sine fills) {step : Nat}
    (hfound : watched.found = some step) : step ∈ watched.reached := by
  obtain ⟨stores, -, hlast⟩ := h.found_eq
  exact List.mem_of_mem_take (List.mem_of_getLast? (hlast.symm.trans hfound))

theorem start_sound (sink : Sink ω) (song : Song) (volume : Float32) (sine : Bool) (out : ω) :
    (start (.start sink song volume sine out)).Sound sink.rate song sine 0 where
  worker := SongWorker.start_counted sink song volume sine out
  reached := rfl
  shows := stepOfCell_noStep
  reads := ⟨0, [], rfl, .nil, by simp⟩
  read_reached := by simp [start]

theorem Sound.read (h : watched.Sound rate song sine fills) :
    (watched.move sink volume .read).Sound rate song sine fills where
  worker := h.worker
  reached := h.reached
  shows := h.shows
  reads := h.reads.read
  read_reached step hread := by
    rcases List.mem_append.mp hread with hold | hnew
    · exact h.read_reached step hold
    · exact h.mem_reached (List.mem_singleton.mp hnew).symm

theorem Sound.stop (h : watched.Sound rate song sine fills) :
    (watched.move sink volume .stop).Sound rate song sine fills where
  worker := h.worker.stop
  reached := h.reached
  shows := h.shows
  reads := h.reads
  read_reached := h.read_reached

theorem stepOfCell_of_shown (hsteps : 0 < song.pattern.steps)
    (hfit : (Synth.ofRate rate).stepLength song.tempo * song.pattern.steps ≤ Synth.countMax)
    {step : Nat} (hshown : song.shownAfter rate fills = some step) :
    stepOfCell step = some step := by
  have hlt : step < song.pattern.steps := by
    cases fills with
    | zero => cases hshown
    | succ fills =>
        cases hshown
        exact Song.stepAfter_lt hsteps _
  have hle := Nat.le_mul_of_pos_left song.pattern.steps
    ((Synth.ofRate rate).stepLength_pos song.tempo)
  exact if_neg (Nat.ne_of_lt (Nat.lt_of_lt_of_le hlt (Nat.le_trans hle hfit)))

theorem Sound.work (sink : Sink ω) (volume : Float32) (hsteps : 0 < song.pattern.steps)
    (hfit : (Synth.ofRate rate).stepLength song.tempo * song.pattern.steps ≤ Synth.countMax)
    (h : watched.Sound rate song sine fills) :
    ∃ more, (watched.work sink volume).Sound rate song sine more := by
  obtain ⟨hworker, hreached, hshows, hreads, hread⟩ := h
  obtain ⟨worker, stopped, cell, unstored, reached, reads⟩ := watched
  cases unstored with
  | some step =>
      -- the thread stores the step of the last chunk, and the owner has read none behind it
      obtain ⟨hshown, hfound, -⟩ := hshows
      have hcell : stepOfCell step = song.shownAfter rate fills :=
        (stepOfCell_of_shown hsteps hfit hshown).trans hshown.symm
      refine ⟨fills, hworker, hreached, hcell, ?_, hread⟩
      rw [hfound] at hreads
      show ReadsUpTo (stepOfCell step) reads
      rw [hcell]
      exact hreads.later (Nat.sub_le ..)
  | none =>
      simp only [WatchedSong.work]
      cases hfills : worker.fillsNext stopped with
      | false =>
          rw [if_neg Bool.false_ne_true]
          exact ⟨fills, hworker.step hfit hfills, hreached, hshows, hreads, hread⟩
      | true =>
          obtain ⟨hfilled, hwrites⟩ := hworker.fill sink volume hsteps hfills
          have hplayhead : (worker.step sink volume stopped).stream.playhead =
              some (song.stepAfter rate (fills + 1)) := by
            rw [hfilled.stream]
            exact Song.playhead_after sine hsteps _
          rw [if_pos rfl]
          refine ⟨fills + 1, hfilled, ?_, ?_, hreads, ?_⟩
          · show reached ++ [_] = _
            rw [← SongStream.eq_of_playhead hplayhead, List.range_succ, List.map_append,
              show reached = _ from hreached]
            rfl
          · simp only [Shows, hplayhead]
            exact ⟨rfl, hshows, hwrites⟩
          · exact fun step hstep => List.mem_append_left _ (hread step hstep)

theorem Sound.run (sink : Sink ω) (volume : Float32) (hsteps : 0 < song.pattern.steps)
    (hfit : (Synth.ofRate rate).stepLength song.tempo * song.pattern.steps ≤ Synth.countMax)
    (h : watched.Sound rate song sine fills) (moves : List PlayMove) :
    ∃ more, (watched.run sink volume moves).Sound rate song sine more := by
  induction moves generalizing watched fills with
  | nil => exact ⟨fills, h⟩
  | cons move moves ih =>
      cases move with
      | read => exact ih h.read
      | stop => exact ih h.stop
      | work =>
          obtain ⟨_, hmore⟩ := h.work sink volume hsteps hfit
          exact ih hmore

end Sound

theorem stopped_work (sink : Sink ω) (volume : Float32) (watched : WatchedSong ω) :
    (watched.work sink volume).stopped = watched.stopped := by
  unfold work
  split
  · rfl
  · dsimp only
    split <;> rfl

theorem stopped_run (sink : Sink ω) (volume : Float32) {moves : List PlayMove}
    (hstop : .stop ∉ moves) (watched : WatchedSong ω) :
    (watched.run sink volume moves).stopped = watched.stopped := by
  induction moves generalizing watched with
  | nil => rfl
  | cons move moves ih =>
      obtain ⟨hmove, hmoves⟩ := not_or.mp (List.mem_cons.not.mp hstop)
      cases move with
      | read => exact ih hmoves _
      | stop => exact absurd rfl hmove
      | work => exact (ih hmoves _).trans (stopped_work sink volume watched)

theorem Sound.found_of_result {rate : UInt32} {song : Song} {sine : Bool} {fills : Nat}
    {watched : WatchedSong ω} (hsteps : 0 < song.pattern.steps)
    (h : watched.Sound rate song sine fills) {report : Report}
    (hresult : watched.worker.result = .ok report)
    (hfree : report.cancelled = false ∨ watched.stopped = false) :
    watched.found = some (song.pattern.steps - 1) := by
  have hstage : watched.worker.stage = .done (.ok report) :=
    SongWorker.stage_of_result hresult
  have haccounts := h.worker.stage
  rw [hstage] at haccounts
  obtain ⟨hheeded, hall⟩ := haccounts
  have hcancelled : report.cancelled = false := by
    rcases hfree with hfree | hfree
    · exact hfree
    · rw [← Bool.not_eq_true]
      intro hcancelled
      rw [hheeded hcancelled] at hfree
      cases hfree
  have hshows := h.shows
  unfold Shows at hshows
  split at hshows
  · rw [hshows, Song.shownAfter_of_all hsteps (hall hcancelled)]
  · have hwrites := hshows.2.2
    rw [SongWorker.writesNext, hstage] at hwrites
    cases hwrites

structure Silent (watched : WatchedSong ω) : Prop where
  through : watched.worker.through
  cell : watched.cell = noStep
  unstored : watched.unstored = none
  reads : ∀ read ∈ watched.reads, read = none

theorem Silent.move {watched : WatchedSong ω} (h : watched.Silent) (sink : Sink ω)
    (volume : Float32) (move : PlayMove) : (watched.move sink volume move).Silent := by
  obtain ⟨worker, stopped, cell, unstored, reached, reads⟩ := watched
  obtain ⟨hthrough, hcell, hunstored, hreads⟩ := h
  subst hcell hunstored
  cases move with
  | read =>
      refine ⟨hthrough, rfl, rfl, fun read hread => ?_⟩
      rcases List.mem_append.mp hread with hold | hnew
      · exact hreads read hold
      · exact (List.mem_singleton.mp hnew).trans stepOfCell_noStep
  | stop => exact ⟨hthrough, rfl, rfl, hreads⟩
  | work =>
      have hidle : worker.fillsNext stopped = false := by
        obtain ⟨stage, _, _, _, _⟩ := worker
        cases stage with
        | done _ | crashed => rfl
        | prime | poll _ _ _ | deliver _ _ _ _ | tail _ | flush _ => cases hthrough
      simp only [WatchedSong.move, work, hidle, if_neg Bool.false_ne_true,
        SongWorker.step_of_through hthrough]
      exact ⟨hthrough, rfl, rfl, hreads⟩

theorem Silent.run {watched : WatchedSong ω} (h : watched.Silent) (sink : Sink ω)
    (volume : Float32) (moves : List PlayMove) : (watched.run sink volume moves).Silent := by
  induction moves generalizing watched with
  | nil => exact h
  | cons move moves ih => exact ih (h.move sink volume move)

end WatchedSong

/--
The owner finds no step at first and then steps that never go back, whatever the sink does and
whenever the song is stopped.  Each of them is where the cursor was after a chunk that was filled
before, the last such chunk or the one before it.  When the thread ends well and has not heeded a
stop, the last step is there.
-/
theorem playhead_read_in_order (sink : Sink ω) (song : Song) (volume : Float32) (sine : Bool)
    (out : ω) (hsteps : 0 < song.pattern.steps)
    (hfit : (Synth.ofRate sink.rate).stepLength song.tempo * song.pattern.steps ≤
      Synth.countMax) (moves : List PlayMove) :
    let steps := song.pattern.steps
    let size := (Synth.ofRate sink.rate).stepLength song.tempo
    let total := (SongStream.start sink.rate song sine).total
    let watched := (WatchedSong.start (.start sink song volume sine out)).run sink volume moves
    let reached := watched.reached
    (∃ (silent : Nat) (found : List Nat),
      watched.reads = List.replicate silent none ++ found.map some ∧
      found.Pairwise (· ≤ ·) ∧ ∀ step ∈ found, step < steps ∧ step ∈ reached) ∧
    (∃ stores, (stores = reached.length ∨ stores + 1 = reached.length) ∧
      watched.found = (reached.take stores).getLast?) ∧
    (reached = (List.range reached.length).map fun chunk =>
      min (min total (512 * (chunk + 1)) / size) (steps - 1)) ∧
    (watched.unstored = none → watched.found = watched.worker.playhead) ∧
    (∀ report, watched.worker.result = .ok report → report.cancelled = false ∨ .stop ∉ moves →
      watched.found = some (steps - 1)) ∧
    ∀ (unmade : SongWorker ω) (error : SoundError),
      unmade = .sinkFailed song error out ∨ unmade = .sinkCrashed song out →
        ∀ read ∈ ((WatchedSong.start unmade).run sink volume moves).reads, read = none := by
  intro steps size total watched reached
  obtain ⟨fills, hsound⟩ := (WatchedSong.start_sound sink song volume sine out).run
    sink volume hsteps hfit moves
  have htotal : total = size * steps := Synth.patternLength_eq _ _ _ hfit
  have hlength : reached.length = fills := by
    rw [show reached = _ from hsound.reached]
    simp
  refine ⟨?_, hsound.found_eq, ?_, ?_, ?_, ?_⟩
  · obtain ⟨silent, found, hreads, hordered, -⟩ := hsound.reads
    refine ⟨silent, found, hreads, hordered, fun step hstep => ?_⟩
    have hreached : step ∈ reached := by
      apply hsound.read_reached
      rw [hreads]
      exact List.mem_append_right _ (List.mem_map_of_mem hstep)
    refine ⟨?_, hreached⟩
    rw [show reached = _ from hsound.reached] at hreached
    obtain ⟨chunk, -, rfl⟩ := List.mem_map.mp hreached
    exact Song.stepAfter_lt hsteps _
  · rw [hlength, htotal]
    exact hsound.reached
  · intro hunstored
    have hshows := hsound.shows
    unfold WatchedSong.Shows at hshows
    rw [show watched.unstored = none from hunstored] at hshows
    exact hshows.trans hsound.worker.playhead.symm
  · intro report hresult hfree
    refine hsound.found_of_result hsteps hresult (hfree.imp_right fun hstop => ?_)
    exact WatchedSong.stopped_run sink volume hstop _
  · rintro unmade error (rfl | rfl)
    · exact (WatchedSong.Silent.run ⟨rfl, rfl, rfl, by simp [WatchedSong.start]⟩ sink volume
        moves).reads
    · exact (WatchedSong.Silent.run ⟨rfl, rfl, rfl, by simp [WatchedSong.start]⟩ sink volume
        moves).reads

theorem playhead_read_in_order_around_chunk :
    let sink := Recording.sink 1 2
    let song : Song := ⟨150, 1, false, ⟨[some 60], [none, some 67], [some 0], 3⟩⟩
    let moves : List PlayMove :=
      [.read, .work, .work, .read, .work, .read, .work, .stop, .work, .work, .work, .read]
    let watched := (WatchedSong.start (.start sink song 1 false .empty)).run sink 1 moves
    0 < song.pattern.steps ∧
      (Synth.ofRate sink.rate).stepLength song.tempo * song.pattern.steps ≤ Synth.countMax ∧
      watched.reads = [none, none, some 2, some 2] ∧ watched.unstored = none ∧
      watched.worker.result = .ok ⟨3, false⟩ ∧ watched.worker.playhead = some 2 ∧
      watched.found = some 2 ∧
      ∀ read ∈ ((WatchedSong.start (.sinkFailed song .disconnected .empty)).run sink 1 moves).reads,
        read = none := by
  intro sink song moves watched
  have hfit : (Synth.ofRate sink.rate).stepLength song.tempo * song.pattern.steps ≤
      Synth.countMax := by
    decide +kernel
  have hreads : watched.reads = [none, none, some 2, some 2] := by decide +kernel
  have hunstored : watched.unstored = none := by decide +kernel
  have hresult : watched.worker.result = .ok ⟨3, false⟩ := by decide +kernel
  obtain ⟨-, -, -, hstored, hend, hunmade⟩ :=
    playhead_read_in_order sink song 1 false .empty (by decide) hfit moves
  have hfound : watched.found = some 2 := hend ⟨3, false⟩ hresult (Or.inl rfl)
  exact ⟨by decide, hfit, hreads, hunstored, hresult, (hstored hunstored).symm.trans hfound, hfound,
    hunmade _ .disconnected (Or.inl rfl)⟩

end PulseTracker
