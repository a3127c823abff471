import Mathlib.Logic.Function.Iterate
import PulseTracker.Proofs.Audio.Script
import PulseTracker.Proofs.Song.Delivery
import PulseTracker.Worker.Song

/-!
# Stopping a background song

The owner may raise the cancel flag between any two steps of the thread, and then
waits for its end.  Whenever that is, the sink has received silence, the song up
to the end of a chunk, and silence again, and was flushed once after that; the
report says how far the song came.
-/

namespace PulseTracker

/-! ## Calls of a sink -/

/-- A sink in state `first` comes to state `out` by writes that hold `samples` together. -/
def Sink.Takes (sink : Sink ω) (first : ω) (samples : Array Int16) (out : ω) : Prop :=
  ∃ writes : List (Array Int16),
    out = sink.after (writes.map .write) first ∧
      writes.flatMap Array.toList = samples.toList

namespace Sink

variable {sink : Sink ω} {first out : ω} {samples : Array Int16}

theorem takes_nothing (sink : Sink ω) (first : ω) : sink.Takes first #[] first :=
  ⟨[], rfl, rfl⟩

theorem Takes.write (h : sink.Takes first samples out) (more : Array Int16) :
    sink.Takes first (samples ++ more) (sink.write more out).2 := by
  obtain ⟨writes, rfl, hwrites⟩ := h
  refine ⟨writes ++ [more], ?_, ?_⟩
  · simp [after, call]
  · simp [hwrites]

theorem Takes.flush (h : sink.Takes first samples out) :
    ∃ writes : List (Array Int16),
      (sink.flush out).2 = sink.after (writes.map .write ++ [.flush]) first ∧
        writes.flatMap Array.toList = samples.toList := by
  obtain ⟨writes, rfl, hwrites⟩ := h
  refine ⟨writes, ?_, hwrites⟩
  simp [after, call]

end Sink

/-! ## Chunks of a song -/

theorem SongStream.start_total (rate : UInt32) (song : Song) (sine : Bool)
    (hfit : (Synth.ofRate rate).stepLength song.tempo * song.pattern.steps ≤ Synth.countMax) :
    (start rate song sine).total = (start rate song sine).upcoming.length := by
  rw [start_upcoming, Array.length_toList, Synth.render_size]
  exact Synth.patternLength_eq _ _ _ hfit

theorem SongStream.pull_eq {remaining : Nat} (stream : SongStream)
    (h : remaining ≤ stream.upcoming.length) (volume : Float32) (scratch : Scratch) :
    (source.pull volume remaining scratch stream).samples =
        scaleSamples volume (stream.upcoming.take (min remaining chunkMax)).toArray ∧
      (source.pull volume remaining scratch stream).source.upcoming =
        stream.upcoming.drop (min remaining chunkMax) := by
  obtain ⟨hsamples, hrest⟩ := stream.next_upcoming (min remaining chunkMax)
  have hsize : (stream.next (min remaining chunkMax)).2.size = min remaining chunkMax := by
    rw [next_size]
    omega
  have hwritten := overwrite_take (scratch.take remaining) (Nat.le_of_eq hsize)
  rw [hsize, hsamples] at hwritten
  simp only [Source.pull, source, hsize, Nat.min_self]
  refine ⟨?_, hrest⟩
  congr 1
  apply Array.toList_inj.mp
  rw [Array.toList_extract, List.extract_eq_take_drop]
  exact hwritten

/-! ## Steps whose writes succeed -/

namespace SongWorker

variable {sink : Sink ω} {volume : Float32} {cancel : Bool} {stream : SongStream}
  {playhead : Option Nat} {out : ω} {log : List LogRecord}

theorem afterWrite_of_ok (worker : ω → SongWorker ω) {outcome : Except SoundError Unit × ω}
    (h : outcome.1 = .ok ()) (next : SongStage) :
    afterWrite worker outcome next = { worker outcome.2 with stage := next } := by
  obtain ⟨result, out⟩ := outcome
  cases h
  rfl

theorem step_prime (hsink : sink.NeverFails) :
    step sink volume cancel ⟨.prime, stream, playhead, out, log⟩ =
      ⟨.poll stream.total 0 .empty, stream, playhead, (sink.write sink.silence out).2, log⟩ :=
  afterWrite_of_ok _ (hsink.write sink.silence out) _

theorem step_deliver (hsink : sink.NeverFails) {samples : Array Int16} {remaining frames : Nat}
    {scratch : Scratch} :
    step sink volume cancel
        ⟨.deliver samples remaining frames scratch, stream, playhead, out, log⟩ =
      ⟨.poll remaining frames scratch, stream, playhead,
        (sink.write (interleave sink.width samples) out).2, log⟩ :=
  afterWrite_of_ok _ (hsink.write (interleave sink.width samples) out) _

theorem step_tail (hsink : sink.NeverFails) {report : Report} :
    step sink volume cancel ⟨.tail report, stream, playhead, out, log⟩ =
      ⟨.flush report, stream, playhead, (sink.write sink.silence out).2,
        log ++ [streamEndRecord report]⟩ := by
  have hok : (sink.writeSilence (paddingLength sink.rate) out).1 = .ok () := hsink.write _ out
  simp only [step]
  rw [← Prod.eta (sink.writeSilence (paddingLength sink.rate) out), hok]
  rfl

theorem step_flush (hsink : sink.NeverFails) {report : Report} :
    step sink volume cancel ⟨.flush report, stream, playhead, out, log⟩ =
      ⟨.done (.ok report), stream, playhead, (sink.flush out).2, log⟩ :=
  afterWrite_of_ok _ (hsink.flush out) _

end SongWorker

/-! ## The course of the thread -/

/-- A report that names the frames delivered of `total`, and says whether that is not all. -/
structure Report.Honest (report : Report) (total : Nat) : Prop where
  le : report.frames ≤ total
  cancelled : report.cancelled = decide (report.frames < total)

def Sink.upTo (sink : Sink ω) (volume : Float32) (whole : List Int16) (frames : Nat) :
    Array Int16 :=
  sink.silence ++ sink.framed volume (whole.take frames)

theorem Sink.upTo_zero (sink : Sink ω) (volume : Float32) (whole : List Int16) :
    sink.upTo volume whole 0 = sink.silence := by
  rw [upTo, List.take_zero, framed_nil, Array.append_empty]

theorem Sink.upTo_add (sink : Sink ω) (volume : Float32) (whole : List Int16)
    (frames count : Nat) :
    sink.upTo volume whole (frames + count) =
      sink.upTo volume whole frames ++ sink.framed volume ((whole.drop frames).take count) := by
  rw [upTo, upTo, List.take_add, framed_append, Array.append_assoc]

namespace SongWorker

/-- Where a thread can be that plays the song `whole`: how far its stream is, and what its sink,
which was in state `first`, has received. -/
def OnCourse (sink : Sink ω) (volume : Float32) (whole : List Int16) (first : ω)
    (worker : SongWorker ω) : Prop :=
  match worker.stage with
  | .prime =>
      worker.stream.upcoming = whole ∧ worker.stream.total = whole.length ∧ worker.out = first
  | .poll remaining frames _ =>
      remaining + frames = whole.length ∧ worker.stream.upcoming = whole.drop frames ∧
        sink.Takes first (sink.upTo volume whole frames) worker.out
  | .deliver samples remaining frames _ =>
      remaining + frames = whole.length ∧ worker.stream.upcoming = whole.drop frames ∧
        ∃ before, sink.Takes first before worker.out ∧
          before ++ interleave sink.width samples = sink.upTo volume whole frames
  | .tail report =>
      report.Honest whole.length ∧
        sink.Takes first (sink.upTo volume whole report.frames) worker.out
  | .flush report =>
      report.Honest whole.length ∧
        sink.Takes first (sink.upTo volume whole report.frames ++ sink.silence) worker.out
  | .done result =>
      ∃ report before, result = .ok report ∧ report.Honest whole.length ∧
        sink.Takes first (sink.upTo volume whole report.frames ++ sink.silence) before ∧
        worker.out = (sink.flush before).2
  | .crashed => False

variable {sink : Sink ω} {volume : Float32} {whole : List Int16} {first : ω}

theorem start_onCourse (sink : Sink ω) (song : Song) (volume : Float32) (sine : Bool) (out : ω)
    (hfit : (Synth.ofRate sink.rate).stepLength song.tempo * song.pattern.steps ≤
      Synth.countMax) :
    (start sink song volume sine out).OnCourse sink volume
      ((Synth.ofRate sink.rate).render song.pattern song.tempo (song.voicing sine)).toList
      out := by
  have htotal := SongStream.start_total sink.rate song sine hfit
  rw [SongStream.start_upcoming] at htotal
  exact ⟨SongStream.start_upcoming sink.rate song sine, htotal, rfl⟩

theorem fill_stage (worker : SongWorker ω) (volume : Float32) (scratch : Scratch)
    {remaining frames : Nat} (hsome : remaining ≠ 0) (hcount : remaining + frames = whole.length)
    (hupcoming : worker.stream.upcoming = whole.drop frames) :
    ∃ scratch', (worker.fill volume remaining frames scratch).stage =
        .deliver
          (scaleSamples volume ((whole.drop frames).take (min remaining chunkMax)).toArray)
          (remaining - min remaining chunkMax) (frames + min remaining chunkMax) scratch' ∧
      (worker.fill volume remaining frames scratch).stream.upcoming =
        whole.drop (frames + min remaining chunkMax) := by
  have hleft : worker.stream.upcoming.length = remaining := by
    rw [hupcoming, List.length_drop]
    omega
  obtain ⟨hsamples, hrest⟩ :=
    worker.stream.pull_eq (Nat.le_of_eq hleft.symm) volume scratch
  have hsize : (SongStream.source.pull volume remaining scratch worker.stream).samples.size =
      min remaining chunkMax := by
    rw [hsamples, scaleSamples_size, List.size_toArray, List.length_take, hleft]
    omega
  have hchunk : 0 < min remaining chunkMax := by
    unfold chunkMax
    omega
  rw [hupcoming] at hsamples hrest
  rw [List.drop_drop] at hrest
  simp only [fill, hsize, if_neg (Nat.ne_of_gt hchunk)]
  rw [hsamples]
  exact ⟨_, rfl, hrest⟩

theorem fill_onCourse {remaining frames : Nat} {scratch : Scratch} {worker : SongWorker ω}
    (hsome : remaining ≠ 0) (hcount : remaining + frames = whole.length)
    (hupcoming : worker.stream.upcoming = whole.drop frames)
    (htakes : sink.Takes first (sink.upTo volume whole frames) worker.out) :
    (worker.fill volume remaining frames scratch).OnCourse sink volume whole first := by
  obtain ⟨scratch', hstage, hrest⟩ :=
    worker.fill_stage volume scratch hsome hcount hupcoming
  unfold OnCourse
  rw [hstage]
  refine ⟨by omega, hrest, _, htakes, ?_⟩
  rw [Sink.upTo_add]
  rfl

theorem OnCourse.step (hsink : sink.NeverFails) (cancel : Bool) {worker : SongWorker ω}
    (h : worker.OnCourse sink volume whole first) :
    (worker.step sink volume cancel).OnCourse sink volume whole first := by
  obtain ⟨stage, stream, playhead, out, log⟩ := worker
  cases stage with
  | prime =>
      obtain ⟨hupcoming, htotal, hout⟩ := h
      simp only at hupcoming htotal hout
      subst hout
      rw [step_prime hsink]
      refine ⟨htotal, hupcoming, ?_⟩
      have htakes := (sink.takes_nothing out).write sink.silence
      rw [Array.empty_append] at htakes
      rw [Sink.upTo_zero]
      exact htakes
  | poll remaining frames scratch =>
      obtain ⟨hcount, hupcoming, htakes⟩ := h
      simp only [SongWorker.step]
      by_cases hremaining : remaining = 0
      · rw [if_pos hremaining]
        refine ⟨⟨?_, ?_⟩, htakes⟩
        · simp only
          omega
        · simp only [Bool.false_eq, decide_eq_false_iff_not]
          omega
      · rw [if_neg hremaining]
        cases cancel with
        -- Something remains, so a report of a stop is right.
        | true =>
            refine ⟨⟨?_, ?_⟩, htakes⟩
            · simp only
              omega
            · simp only [Bool.true_eq, decide_eq_true_eq]
              omega
        | false => exact fill_onCourse hremaining hcount hupcoming htakes
  | deliver samples remaining frames scratch =>
      obtain ⟨hcount, hupcoming, before, htakes, hsamples⟩ := h
      rw [step_deliver hsink]
      refine ⟨hcount, hupcoming, ?_⟩
      rw [← hsamples]
      exact htakes.write _
  | tail report =>
      obtain ⟨hreport, htakes⟩ := h
      rw [step_tail hsink]
      exact ⟨hreport, htakes.write _⟩
  | flush report =>
      obtain ⟨hreport, htakes⟩ := h
      rw [step_flush hsink]
      exact ⟨report, out, rfl, hreport, htakes, rfl⟩
  | done result => exact h
  | crashed => exact h

def reached (worker : SongWorker ω) : Nat :=
  match worker.stage with
  | .poll _ frames _ => frames
  | .deliver _ _ frames _ => frames
  | .tail report => report.frames
  | .flush report => report.frames
  | .done (.ok report) => report.frames
  | _ => 0

theorem OnCourse.reached_step (hsink : sink.NeverFails) {worker : SongWorker ω}
    (h : worker.OnCourse sink volume whole first) :
    (worker.step sink volume true).reached = worker.reached := by
  obtain ⟨stage, stream, playhead, out, log⟩ := worker
  cases stage with
  | prime =>
      rw [step_prime hsink]
      rfl
  | poll remaining frames scratch =>
      simp only [SongWorker.step]
      split
      · rfl
      · rfl
  | deliver samples remaining frames scratch =>
      rw [step_deliver hsink]
      rfl
  | tail report =>
      rw [step_tail hsink]
      rfl
  | flush report =>
      rw [step_flush hsink]
      rfl
  | done result => rfl
  | crashed => exact h.elim

/-- A thread that runs to its end under the raised flag delivers no further chunk. -/
theorem OnCourse.finish (hsink : sink.NeverFails) {worker : SongWorker ω}
    (h : worker.OnCourse sink volume whole first) :
    (worker.finish sink volume true).OnCourse sink volume whole first ∧
      (worker.finish sink volume true).through ∧
      (worker.finish sink volume true).reached = worker.reached := by
  fun_induction SongWorker.finish sink volume true worker with
  | case1 worker hthrough => exact ⟨h, hthrough, rfl⟩
  | case2 worker hthrough hless ih =>
      obtain ⟨hcourse, hended, hreached⟩ := ih (h.step hsink true)
      exact ⟨hcourse, hended, hreached.trans (h.reached_step hsink)⟩

theorem OnCourse.ended {worker : SongWorker ω} (h : worker.OnCourse sink volume whole first)
    (hthrough : worker.through) :
    worker.result = .ok ⟨worker.reached, decide (worker.reached < whole.length)⟩ ∧
      ∃ writes : List (Array Int16),
        worker.out = sink.after (writes.map .write ++ [.flush]) first ∧
          writes.flatMap Array.toList =
            (sink.upTo volume whole worker.reached ++ sink.silence).toList := by
  obtain ⟨stage, stream, playhead, out, log⟩ := worker
  cases stage with
  | done result =>
      obtain ⟨⟨frames, cancelled⟩, before, hresult, hreport, htakes, hout⟩ := h
      simp only at hresult hout
      subst hresult hout
      have hcancelled : cancelled = decide (frames < whole.length) := hreport.cancelled
      refine ⟨?_, htakes.flush⟩
      rw [hcancelled]
      rfl
  | crashed => exact h.elim
  | prime | poll _ _ _ | deliver _ _ _ _ | tail _ | flush _ => cases hthrough

/-! ## The moment of the flag -/

/-- Where a thread is after so many steps without the flag: it primes the sink first, and then
fills and writes a chunk in turn. -/
def Paced (total steps : Nat) (worker : SongWorker ω) : Prop :=
  match worker.stage with
  | .prime => steps = 0
  | .poll _ frames _ => steps % 2 = 1 ∧ frames = min total (chunkMax * (steps / 2))
  | .deliver _ _ frames _ => steps % 2 = 0 ∧ frames = min total (chunkMax * (steps / 2))
  | _ => worker.reached = total ∧ total ≤ chunkMax * (steps / 2)

theorem Paced.reached {total steps : Nat} {worker : SongWorker ω} (h : worker.Paced total steps) :
    worker.reached = min total (chunkMax * (steps / 2)) := by
  obtain ⟨stage, stream, playhead, out, log⟩ := worker
  cases stage with
  | prime =>
      have hsteps : steps = 0 := h
      rw [hsteps]
      exact (Nat.min_zero total).symm
  | poll _ _ _ | deliver _ _ _ _ => exact h.2
  | tail _ | flush _ | done _ | crashed => exact h.1.trans (Nat.min_eq_left h.2).symm

theorem Paced.step (hsink : sink.NeverFails) {steps : Nat} {worker : SongWorker ω}
    (hcourse : worker.OnCourse sink volume whole first) (h : worker.Paced whole.length steps) :
    (worker.step sink volume false).Paced whole.length (steps + 1) := by
  obtain ⟨stage, stream, playhead, out, log⟩ := worker
  -- Once the song is over, more steps change nothing that counts.
  have hlater {total : Nat} (hle : total ≤ chunkMax * (steps / 2)) :
      total ≤ chunkMax * ((steps + 1) / 2) :=
    Nat.le_trans hle (Nat.mul_le_mul_left _ (by omega))
  cases stage with
  | prime =>
      have hsteps : steps = 0 := h
      rw [step_prime hsink, hsteps]
      exact ⟨rfl, (Nat.min_zero _).symm⟩
  | poll remaining frames scratch =>
      obtain ⟨hodd, hframes⟩ := h
      obtain ⟨hcount, hupcoming, htakes⟩ := hcourse
      simp only [SongWorker.step]
      by_cases hremaining : remaining = 0
      -- All is written, and the bound says after how many steps at the latest.
      · rw [if_pos hremaining]
        have hall : frames = whole.length := by omega
        exact ⟨hall, hlater (by omega)⟩
      · obtain ⟨scratch', hstage, -⟩ :=
          fill_stage ⟨.poll remaining frames scratch, stream, playhead, out, log⟩ volume scratch
            hremaining hcount hupcoming
        rw [if_neg hremaining, if_neg Bool.false_ne_true]
        unfold Paced
        rw [hstage]
        unfold chunkMax at hframes ⊢
        omega
  | deliver samples remaining frames scratch =>
      obtain ⟨heven, hframes⟩ := h
      have hsame : (steps + 1) / 2 = steps / 2 := by omega
      rw [step_deliver hsink]
      refine ⟨by omega, ?_⟩
      rw [hsame]
      exact hframes
  | tail report =>
      rw [step_tail hsink]
      exact ⟨h.1, hlater h.2⟩
  | flush report =>
      rw [step_flush hsink]
      exact ⟨h.1, hlater h.2⟩
  | done result => exact ⟨h.1, hlater h.2⟩
  | crashed => exact hcourse.elim

theorem onCourse_paced_iterate (hsink : sink.NeverFails) {worker : SongWorker ω}
    (hcourse : worker.OnCourse sink volume whole first) (hpaced : worker.Paced whole.length 0)
    (steps : Nat) :
    ((SongWorker.step sink volume false)^[steps] worker).OnCourse sink volume whole first ∧
      ((SongWorker.step sink volume false)^[steps] worker).Paced whole.length steps := by
  induction steps with
  | zero => exact ⟨hcourse, hpaced⟩
  | succ steps ih =>
      rw [Function.iterate_succ_apply']
      exact ⟨ih.1.step hsink false, ih.2.step hsink ih.1⟩

def stopAfter (sink : Sink ω) (volume : Float32) (steps : Nat) (worker : SongWorker ω) :
    SongWorker ω :=
  ((SongWorker.step sink volume false)^[steps] worker).finish sink volume true

/--
Whenever a song is stopped, its sink has got silence, a beginning of the song and silence again,
and one flush at the end.  The beginning is a number of whole chunks or all of the song, and the
report says which.
-/
theorem stopAfter_delivers {sink : Sink ω} (hsink : sink.NeverFails) (song : Song)
    (volume : Float32) (sine : Bool) (out : ω)
    (hfit : (Synth.ofRate sink.rate).stepLength song.tempo * song.pattern.steps ≤
      Synth.countMax) (steps : Nat) :
    let whole := (Synth.ofRate sink.rate).render song.pattern song.tempo (song.voicing sine)
    let total := (SongStream.start sink.rate song sine).total
    let worker := (start sink song volume sine out).stopAfter sink volume steps
    let frames := min total (chunkMax * (steps / 2))
    whole.size = total ∧
      worker.result = .ok ⟨frames, decide (frames < total)⟩ ∧
      (frames = total ∨ chunkMax ∣ frames) ∧
      ∃ writes : List (Array Int16),
        worker.out = sink.after (writes.map .write ++ [.flush]) out ∧
          writes.flatMap Array.toList =
            (sink.silence ++
              interleave sink.width (scaleSamples volume (whole.extract 0 frames)) ++
              sink.silence).toList := by
  intro whole total worker frames
  have htotal : whole.toList.length = total := by
    rw [← SongStream.start_upcoming sink.rate song sine]
    exact (SongStream.start_total sink.rate song sine hfit).symm
  have hcourse := start_onCourse sink song volume sine out hfit
  obtain ⟨hcourse, hpaced⟩ := onCourse_paced_iterate hsink hcourse rfl steps
  obtain ⟨hended, hthrough, hreached⟩ := hcourse.finish hsink
  rw [hpaced.reached, htotal] at hreached
  obtain ⟨hresult, writes, hout, hwrites⟩ := hended.ended hthrough
  rw [hreached, htotal] at hresult
  have hprefix : (whole.toList.take frames).toArray = whole.extract 0 frames := by
    rw [← Array.toList_inj, Array.toList_extract, List.extract_eq_take_drop]
    rfl
  rw [hreached, Sink.upTo, Sink.framed, hprefix] at hwrites
  refine ⟨htotal, hresult, ?_, writes, hout, hwrites⟩
  rcases Nat.le_total total (chunkMax * (steps / 2)) with hall | hchunks
  · exact Or.inl (Nat.min_eq_left hall)
  · right
    rw [show frames = chunkMax * (steps / 2) from Nat.min_eq_right hchunks]
    exact Nat.dvd_mul_right _ _

theorem stopAfter_delivers_first_chunk :
    let sink := Recording.sink 8000 2
    let song : Song := ⟨140, 1, true, ⟨[some 60], [some 67, none], [some 0], 1⟩⟩
    let whole := (Synth.ofRate sink.rate).render song.pattern song.tempo (song.voicing true)
    let total := (SongStream.start sink.rate song true).total
    let worker := (start sink song 0.5 true .empty).stopAfter sink 0.5 2
    let frames := min total 512
    sink.NeverFails ∧
      (Synth.ofRate sink.rate).stepLength song.tempo * song.pattern.steps ≤ Synth.countMax ∧
      whole.size = total ∧
      worker.result = .ok ⟨frames, decide (frames < total)⟩ ∧
      (frames = total ∨ chunkMax ∣ frames) ∧
      ∃ writes : List (Array Int16),
        worker.out = sink.after (writes.map .write ++ [.flush]) .empty ∧
          writes.flatMap Array.toList =
            (sink.silence ++
              interleave sink.width (scaleSamples 0.5 (whole.extract 0 frames)) ++
              sink.silence).toList := by
  intro sink song whole total worker frames
  have hsink : sink.NeverFails := ⟨fun _ _ => rfl, fun _ => rfl⟩
  have hfit : (Synth.ofRate sink.rate).stepLength song.tempo * song.pattern.steps ≤
      Synth.countMax := by
    simpa [song] using (Synth.ofRate sink.rate).stepLength_le_countMax song.tempo
  exact ⟨hsink, hfit, stopAfter_delivers hsink song 0.5 true .empty hfit 2⟩

end SongWorker

end PulseTracker
