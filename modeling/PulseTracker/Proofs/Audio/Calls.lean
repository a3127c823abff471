import Mathlib.Algebra.GroupWithZero.Nat
import PulseTracker.Proofs.Audio.Delivery
import PulseTracker.Proofs.Audio.Requests

/-!
# What playback asks of a source

A source may do anything: write what it likes, claim more samples than it wrote or than it was lent
room for, or none while there are some.  Playback believes no more of a call than it had room for,
and from that alone it follows how much room every call is lent, what reaches the sink, and that
there are not many calls.  For a source that hands out a list and is played to its end, nothing but
that list is asked of the sink.
-/

namespace PulseTracker

/-! ## Calls -/

structure FillCall (σ : Type) where
  source : σ
  room : Nat
  claimed : Nat

namespace FillCall

def taken (call : FillCall σ) : Nat := min call.claimed call.room

def totalTaken (calls : List (FillCall σ)) : Nat := (calls.map taken).sum

@[simp] theorem totalTaken_nil : totalTaken ([] : List (FillCall σ)) = 0 := rfl

@[simp] theorem totalTaken_cons (call : FillCall σ) (rest : List (FillCall σ)) :
    totalTaken (call :: rest) = call.taken + totalTaken rest := List.sum_cons

theorem sum_given (width : Nat) (calls : List (FillCall σ)) :
    (((calls.map taken).filter (0 < ·)).map (width * ·)).sum = width * totalTaken calls := by
  induction calls with
  | nil => rfl
  | cons call rest ih =>
      rw [totalTaken_cons, Nat.mul_add, ← ih]
      rcases Nat.eq_zero_or_pos call.taken with hnone | hsome
      · simp [hnone]
      · simp [hsome]

/-- Calls that are made while so many samples remain: each of them has room for a chunk of these,
and there is none after one that gave nothing. -/
def Asked : Nat → List (FillCall σ) → Prop
  | _, [] => True
  | remaining, call :: rest =>
      0 < remaining ∧ call.room = min remaining chunkMax ∧ (call.taken = 0 → rest = []) ∧
        Asked (remaining - call.taken) rest

namespace Asked

variable {remaining : Nat} {calls : List (FillCall σ)}

theorem eq_nil (h : Asked 0 calls) : calls = [] := by
  cases calls with
  | nil => rfl
  | cons call rest => exact absurd h.1 (Nat.lt_irrefl 0)

theorem taken_le {call : FillCall σ} {rest : List (FillCall σ)}
    (h : Asked remaining (call :: rest)) : call.taken ≤ remaining := by
  have hroom := h.2.1
  unfold taken
  omega

theorem totalTaken_le (h : Asked remaining calls) : totalTaken calls ≤ remaining := by
  induction calls generalizing remaining with
  | nil => exact Nat.zero_le remaining
  | cons call rest ih =>
      have hfirst := h.taken_le
      have hrest := ih h.2.2.2
      rw [totalTaken_cons]
      omega

theorem length_le (h : Asked remaining calls) : calls.length ≤ totalTaken calls + 1 := by
  induction calls generalizing remaining with
  | nil => exact Nat.zero_le _
  | cons call rest ih =>
      obtain ⟨-, -, hlast, hrest⟩ := h
      have hle := ih hrest
      -- every call but the last gives a sample at least
      rw [List.length_cons, totalTaken_cons]
      by_cases hnone : call.taken = 0
      · simp [hlast hnone]
      · omega

theorem of_getElem? (h : Asked remaining calls) {number : Nat} {call : FillCall σ}
    (hcall : calls[number]? = some call) :
    let delivered := totalTaken (calls.take number)
    call.room = min chunkMax (remaining - delivered) ∧ 0 < call.room ∧
      (call.claimed = 0 ∨ delivered + call.taken = remaining → number + 1 = calls.length) := by
  induction calls generalizing remaining number with
  | nil => cases hcall
  | cons first rest ih =>
      have hle := h.taken_le
      obtain ⟨hsome, hroom, hlast, hrest⟩ := h
      cases number with
      | zero =>
          cases hcall
          refine ⟨?_, ?_, fun hend => ?_⟩
          · rw [hroom, List.take_zero, totalTaken_nil, Nat.sub_zero, Nat.min_comm]
          · unfold chunkMax at hroom
            omega
          · have hnone : rest = [] := by
              rcases hend with hdry | hall
              · exact hlast (by rw [taken, hdry, Nat.zero_min])
              · rw [List.take_zero, totalTaken_nil, Nat.zero_add] at hall
                rw [hall, Nat.sub_self] at hrest
                exact hrest.eq_nil
            rw [hnone]
            rfl
      | succ number =>
          obtain ⟨hlater, hpos, hend⟩ := ih hrest hcall
          simp only [List.take_succ_cons, totalTaken_cons, List.length_cons]
          refine ⟨?_, hpos, fun hstop => ?_⟩
          · rw [hlater, Nat.sub_sub]
          · have hthere := hend (hstop.imp_right fun hall => by omega)
            rw [hthere]

end Asked

end FillCall

/-! ## Sources that are watched -/

namespace Source

def logged (source : Source σ) : Source (List (FillCall σ) × σ) where
  fill {room} buffer now :=
    let filled := source.fill buffer now.2
    { claimed := filled.claimed
      buffer := filled.buffer
      source := (now.1 ++ [⟨now.2, room, filled.claimed⟩], filled.source) }

def onSchedule (raised : Nat → σ → Bool) (now : List (FillCall σ) × σ) : Bool :=
  raised now.1.length now.2

def callFor (source : Source σ) (remaining : Nat) (scratch : Scratch) (s : σ) : FillCall σ where
  source := s
  room := min remaining chunkMax
  claimed := (source.fill (scratch.take remaining) s).claimed

variable (source : Source σ) (volume : Float32) (cancel : List (FillCall σ) × σ → Bool)

theorem pull_logged (remaining : Nat) (scratch : Scratch) (past : List (FillCall σ)) (s : σ) :
    source.logged.pull volume remaining scratch (past, s) =
      { samples := (source.pull volume remaining scratch s).samples
        scratch := (source.pull volume remaining scratch s).scratch
        source := (past ++ [source.callFor remaining scratch s],
          (source.pull volume remaining scratch s).source) } := rfl

theorem pull_size (remaining : Nat) (scratch : Scratch) (s : σ) :
    (source.pull volume remaining scratch s).samples.size =
      (source.callFor remaining scratch s).taken := by
  simp only [pull, scaleSamples_size, Array.size_extract, Vector.size_toArray, FillCall.taken,
    callFor]
  omega

theorem transferScript_logged {remaining : Nat} (hremaining : remaining ≠ 0) (width frames : Nat)
    (scratch : Scratch) (past : List (FillCall σ)) (s : σ) :
    source.logged.transferScript volume cancel width remaining frames scratch (past, s) =
      let chunk := source.pull volume remaining scratch s
      let call := source.callFor remaining scratch s
      let now := (past ++ [call], chunk.source)
      if cancel (past, s) then .done ⟨frames, true⟩ (past, s)
      else if call.taken = 0 then .done ⟨frames, false⟩ now
      else
        (source.logged.transferScript volume cancel width (remaining - call.taken)
          (frames + call.taken) chunk.scratch now).cons now (monoCall width chunk.samples) := by
  rw [transferScript, if_neg hremaining]
  simp only [pull_logged, pull_size]

theorem transferScript_unlogged (cancel : σ → Bool) (width remaining frames : Nat)
    (scratch : Scratch) (past : List (FillCall σ)) (s : σ) :
    (source.logged.transferScript volume (fun now => cancel now.2) width remaining frames scratch
        (past, s)).mapSource Prod.snd =
      source.transferScript volume cancel width remaining frames scratch s := by
  induction remaining using Nat.strongRecOn generalizing frames scratch past s with
  | ind remaining ih =>
      by_cases hremaining : remaining = 0
      · subst hremaining
        rw [transferScript, transferScript, if_pos rfl, if_pos rfl]
        rfl
      · rw [source.transferScript_logged volume _ hremaining, transferScript, if_neg hremaining]
        dsimp only
        rw [← source.pull_size volume]
        by_cases hflag : cancel s = true
        · rw [if_pos hflag, if_pos hflag]
          rfl
        · rw [if_neg hflag, if_neg hflag]
          by_cases hdry : (source.pull volume remaining scratch s).samples.size = 0
          · rw [if_pos hdry, if_pos hdry]
            rfl
          · rw [if_neg hdry, if_neg hdry, ← ih _ (by omega) _ _ (past ++ [_])]
            rfl

theorem rawScript_unlogged (cancel : σ → Bool) (width total : Nat) (s : σ) :
    (source.logged.rawScript volume (fun now => cancel now.2) width total ([], s)).mapSource
        Prod.snd = source.rawScript volume cancel width total s :=
  source.transferScript_unlogged volume cancel width total 0 .empty [] s

structure Accounts (width remaining frames : Nat) (past calls : List (FillCall σ))
    (script : Script Report (List (FillCall σ) × σ)) (chunks : List (Array Int16)) : Prop where
  asked : FillCall.Asked remaining calls
  source : script.source.1 = past ++ calls
  requests : script.requests = chunks.map .write
  sizes : chunks.map Array.size =
    ((calls.map FillCall.taken).filter (0 < ·)).map (width * ·)
  frames : script.result.frames = frames + FillCall.totalTaken calls

theorem Accounts.sum_sizes {width remaining : Nat} {past calls : List (FillCall σ)}
    {script : Script Report (List (FillCall σ) × σ)} {chunks : List (Array Int16)}
    (h : Accounts width remaining 0 past calls script chunks) :
    width * script.result.frames = (chunks.map Array.size).sum := by
  rw [h.sizes, FillCall.sum_given, h.frames, Nat.zero_add]

theorem transferScript_accounts (width remaining frames : Nat) (scratch : Scratch)
    (past : List (FillCall σ)) (s : σ) :
    ∃ calls chunks, Accounts width remaining frames past calls
      (source.logged.transferScript volume cancel width remaining frames scratch (past, s))
      chunks := by
  induction remaining using Nat.strongRecOn generalizing frames scratch past s with
  | ind remaining ih =>
      by_cases hremaining : remaining = 0
      · subst hremaining
        rw [transferScript, if_pos rfl]
        exact ⟨[], [], trivial, (List.append_nil past).symm, rfl, rfl, rfl⟩
      · rw [source.transferScript_logged volume cancel hremaining]
        dsimp only
        have hsize := source.pull_size volume remaining scratch s
        have hroom : (source.callFor remaining scratch s).room = min remaining chunkMax := rfl
        generalize source.callFor remaining scratch s = call at hsize hroom ⊢
        generalize source.pull volume remaining scratch s = chunk at hsize ⊢
        have hpos := Nat.pos_of_ne_zero hremaining
        split
        · exact ⟨[], [], trivial, (List.append_nil past).symm, rfl, rfl, rfl⟩
        · by_cases hdry : call.taken = 0
          · rw [if_pos hdry]
            refine ⟨[call], [], ⟨hpos, hroom, fun _ => rfl, trivial⟩, rfl, rfl, ?_, ?_⟩
            · simp [hdry]
            · simp [hdry, Script.done]
          · rw [if_neg hdry]
            obtain ⟨calls, chunks, h⟩ := ih (remaining - call.taken) (by omega)
              (frames + call.taken) chunk.scratch (past ++ [call]) chunk.source
            refine ⟨call :: calls, interleave width chunk.samples :: chunks, ?_, ?_, ?_, ?_, ?_⟩
            · exact ⟨hpos, hroom, fun hnone => absurd hnone hdry, h.asked⟩
            · simpa [Script.cons] using h.source
            · exact congrArg (List.cons _) h.requests
            · have hgiven : 0 < call.taken := Nat.pos_of_ne_zero hdry
              simp [hgiven, h.sizes, interleave_size, hsize, Nat.mul_comm]
            · have hframes := h.frames
              rw [FillCall.totalTaken_cons, ← Nat.add_assoc]
              exact hframes

theorem rawScript_accounts (width total : Nat) (s : σ) :
    ∃ calls chunks, Accounts width total 0 [] calls
      (source.logged.rawScript volume cancel width total ([], s)) chunks :=
  source.transferScript_accounts volume cancel width total 0 .empty [] s

end Source

/-! ## A source played to its end -/

section NeverFails

variable {sink : Sink ω} (hsink : sink.NeverFails) (source : Source σ) (volume : Float32)
  (cancel : σ → Bool) (total : Nat) (s : σ) (out : ω)
include hsink

theorem Sink.NeverFails.playRaw :
    playRaw sink source total volume cancel s out =
      let script := source.rawScript volume cancel sink.width total s
      ⟨.ok script.result, script.source, sink.after script.requests out⟩ := by
  rw [source.playRaw_follows]
  exact Script.perform_of_grants _ (hsink.grants _ out)

theorem Sink.NeverFails.playPadded :
    playPadded sink source total volume cancel s out =
      let script := source.rawScript volume cancel sink.width total s
      let calls := .write sink.silence :: script.requests ++ [.write sink.silence]
      ⟨.ok script.result, script.source, sink.after calls out⟩ := by
  rw [source.playPadded_follows, Script.perform_of_grants _ (hsink.grants _ out)]
  simp only [Source.paddedScript, Script.requests, Script.cons, Script.bind, Script.done,
    List.map_cons, List.map_append, List.map_nil, List.cons_append]
  rfl

end NeverFails

/--
What playback does to any source and any flag, on a sink that never fails.  Every call is lent a
buffer for the next chunk of what remains, never an empty one, and the call that claims nothing or
completes the total is the last; there is at most one call more than there are frames.  The sink
gets one write for each of the others, of the samples that were claimed and had room, and the
report counts their frames, which are at most the total.  A stream is the same between two
silences.
-/
theorem playback_of_any_source {sink : Sink ω} (hsink : sink.NeverFails) (source : Source σ)
    (total : Nat) (volume : Float32) (raised : Nat → σ → Bool) (s : σ) (out : ω) :
    ∃ (report : Report) (calls : List (FillCall σ)) (last : σ) (chunks : List (Array Int16)),
      playRaw sink source.logged total volume (Source.onSchedule raised) ([], s) out =
          ⟨.ok report, (calls, last), sink.after (chunks.map .write) out⟩ ∧
      playPadded sink source.logged total volume (Source.onSchedule raised) ([], s) out =
          ⟨.ok report, (calls, last),
            sink.after (.write sink.silence :: chunks.map .write ++ [.write sink.silence]) out⟩ ∧
      (∀ number call, calls[number]? = some call →
        let delivered := ((calls.take number).map FillCall.taken).sum
        call.room = min chunkMax (total - delivered) ∧ 0 < call.room ∧
          (call.claimed = 0 ∨ delivered + call.taken = total → number + 1 = calls.length)) ∧
      calls.length ≤ report.frames + 1 ∧
      chunks.map Array.size =
        ((calls.map FillCall.taken).filter (0 < ·)).map (sink.width * ·) ∧
      report.frames = (calls.map FillCall.taken).sum ∧ report.frames ≤ total ∧
      sink.width * report.frames = (chunks.map Array.size).sum := by
  obtain ⟨calls, chunks, h⟩ := source.rawScript_accounts volume (Source.onSchedule raised)
    sink.width total s
  have hraw := hsink.playRaw source.logged volume (Source.onSchedule raised) total ([], s) out
  have hpadded := hsink.playPadded source.logged volume (Source.onSchedule raised) total ([], s) out
  generalize source.logged.rawScript volume (Source.onSchedule raised) sink.width total ([], s) =
    script at h hraw hpadded
  obtain ⟨listed, report, now, last⟩ := script
  have hnow : now = calls := h.source
  have hframes : report.frames = FillCall.totalTaken calls := h.frames.trans (Nat.zero_add _)
  have hrequests := h.requests
  dsimp only at hraw hpadded
  rw [hrequests, hnow] at hraw hpadded
  refine ⟨report, calls, last, chunks, hraw, hpadded, fun number call hcall => ?_, ?_, h.sizes,
    hframes, ?_, h.sum_sizes⟩
  · exact h.asked.of_getElem? hcall
  · rw [hframes]
    exact h.asked.length_le
  · rw [hframes]
    exact h.asked.totalTaken_le

def Source.boasting : Source Nat :=
  ⟨fun buffer turn => ⟨[1000, 7].getD turn 0, buffer, turn + 1⟩⟩

theorem Source.boasting_calls {sink : Sink ω} (hsink : sink.NeverFails) (volume : Float32)
    (out : ω) :
    (playRaw sink boasting.logged 600 volume (onSchedule fun _ _ => false) ([], 0) out).source.1 =
      [⟨0, 512, 1000⟩, ⟨1, 88, 7⟩, ⟨2, 81, 0⟩] := by
  have hcall (remaining : Nat) (scratch : Scratch) (turn : Nat) :
      boasting.callFor remaining scratch turn =
        ⟨turn, min remaining chunkMax, [1000, 7].getD turn 0⟩ := rfl
  have hnext (remaining : Nat) (scratch : Scratch) (turn : Nat) :
      (boasting.pull volume remaining scratch turn).source = turn + 1 := rfl
  have hpass (remaining : Nat) (hremaining : remaining ≠ 0) :=
    boasting.transferScript_logged volume (onSchedule fun _ _ => false) hremaining sink.width
  rw [hsink.playRaw, rawScript, hpass _ (by decide)]
  simp only [hcall, hnext, onSchedule, Bool.false_eq_true, if_false]
  rw [if_neg (by decide), hpass _ (by decide)]
  simp only [hcall, hnext, onSchedule, Bool.false_eq_true, if_false]
  rw [if_neg (by decide), hpass _ (by decide)]
  simp only [hcall, hnext, onSchedule, Bool.false_eq_true, if_false]
  rw [if_pos (by decide)]
  rfl

theorem playback_of_any_source_that_boasts :
    (Recording.sink 8000 2).NeverFails ∧
      ∃ (report : Report) (last : Nat) (chunks : List (Array Int16)),
        playRaw (Recording.sink 8000 2) Source.boasting.logged 600 1
            (Source.onSchedule fun _ _ => false) ([], 0) .empty =
          ⟨.ok report, ([⟨0, 512, 1000⟩, ⟨1, 88, 7⟩, ⟨2, 81, 0⟩], last),
            (Recording.sink 8000 2).after (chunks.map .write) .empty⟩ ∧
        chunks.map Array.size = [1024, 14] ∧ report.frames = 519 := by
  have hsink := Recording.sink_neverFails 8000 2
  obtain ⟨report, calls, last, chunks, hraw, -, -, -, hsizes, hframes, -, -⟩ :=
    playback_of_any_source hsink Source.boasting 600 1 (fun _ _ => false) 0 .empty
  have hcalls := Source.boasting_calls hsink 1 .empty
  rw [hraw] at hcalls
  dsimp only at hcalls
  subst hcalls
  exact ⟨hsink, report, last, chunks, hraw, hsizes, hframes⟩

/-! ## A source played to its end -/

def SinkCall.samples : SinkCall → List Int16
  | .write samples => samples.toList
  | .flush => []

theorem Sink.recorder_accepts (rate : UInt32) (channels : UInt16) :
    (recorder rate channels).Accepts fun calls => (calls.flatMap SinkCall.samples).toArray where
  ok _ _ := rfl
  append samples calls := by
    simp [recorder, SinkCall.samples]

theorem interleave_toList (width : Nat) (mono : List Int16) :
    (interleave width mono.toArray).toList = mono.flatMap (List.replicate width) := by
  simp [interleave]

theorem Source.rawScript_writes (source : Source σ) (volume : Float32) (cancel : σ → Bool)
    (width total : Nat) (s : σ) :
    ∃ writes : List (Array Int16),
      (source.rawScript volume cancel width total s).requests = writes.map .write := by
  obtain ⟨_, writes, h⟩ :=
    source.rawScript_accounts volume (fun now => cancel now.2) width total s
  refine ⟨writes, ?_⟩
  rw [← source.rawScript_unlogged, Script.requests_mapSource]
  exact h.requests

theorem Source.Supplies.rawScript {source : Source σ} {left : σ → List Int16}
    (h : source.Supplies left) (volume : Float32) (channels : UInt16) (total : Nat) (s : σ) :
    let script := source.rawScript volume neverCancelled (widthOf channels) total s
    let heard := scaleSamples volume ((left s).take total).toArray
    script.result = ⟨min total (left s).length, false⟩ ∧
      ∃ writes : List (Array Int16), script.requests = writes.map .write ∧
        writes.flatMap Array.toList = heard.toList.flatMap (List.replicate (widthOf channels)) := by
  intro script heard
  -- a recorder keeps its calls, and so what it was given can be read off the script
  have hplay := source.playRaw_follows volume neverCancelled (Sink.recorder 1 channels) total s []
  have hscript : playRaw (Sink.recorder 1 channels) source total volume neverCancelled s [] =
      ⟨.ok script.result, script.source, script.requests⟩ :=
    hplay.trans (Script.perform_recorder script 1 channels)
  obtain ⟨hresult, hreceived⟩ :=
    h.yields.playRaw (Sink.recorder_accepts 1 channels) total volume rfl []
  obtain ⟨writes, hwrites⟩ :=
    source.rawScript_writes volume neverCancelled (widthOf channels) total s
  rw [hscript] at hresult hreceived
  refine ⟨Except.ok.inj hresult, writes, hwrites, ?_⟩
  have hgiven : (script.requests.flatMap SinkCall.samples).toArray =
      (Sink.recorder 1 channels).framed volume ((left s).take total) := by
    simpa using hreceived
  have hframed : (Sink.recorder 1 channels).framed volume ((left s).take total) =
      interleave (widthOf channels) heard := rfl
  rw [← interleave_toList, Array.toArray_toList, ← hframed, ← hgiven, hwrites, List.flatMap_map]
  rfl

end PulseTracker
