import PulseTracker.Proofs.Audio.Calls

/-!
# Cancelling

The flag is polled before every chunk.  Without a flag each poll is followed by a call of the source,
so the polls of a run can be numbered as the calls of the run without a flag are.  The first poll
that sees the flag ends the chunks, and up to there nothing is different.
-/

namespace PulseTracker

/-- The flag is seen at the poll of this number, and at none before it.  A poll finds the source as
the call of its number does. -/
def FirstSeen (raised : Nat → σ → Bool) (calls : List (FillCall σ)) (number : Nat) : Prop :=
  (∃ call, calls[number]? = some call ∧ raised number call.source = true) ∧
    ∀ earlier < number, ∀ call, calls[earlier]? = some call →
      raised earlier call.source = false

namespace FirstSeen

variable {raised : Nat → σ → Bool} {call : FillCall σ} {rest : List (FillCall σ)}

theorem eq_zero {number : Nat} (h : FirstSeen raised (call :: rest) number)
    (hseen : raised 0 call.source = true) : number = 0 := by
  apply Nat.eq_zero_of_not_pos
  intro hpos
  exact absurd hseen (by simp [h.2 0 hpos call rfl])

theorem tail {number : Nat} (h : FirstSeen raised (call :: rest) number)
    (hunseen : raised 0 call.source = false) :
    ∃ later, number = later + 1 ∧ FirstSeen (fun poll => raised (poll + 1)) rest later := by
  obtain ⟨⟨seen, hseen, hraised⟩, hbefore⟩ := h
  cases number with
  | zero =>
      cases hseen
      exact absurd hraised (by simp [hunseen])
  | succ later =>
      refine ⟨later, rfl, ⟨seen, hseen, hraised⟩, fun earlier hearlier other hother => ?_⟩
      exact hbefore (earlier + 1) (Nat.succ_lt_succ hearlier) other hother

end FirstSeen

namespace Source

variable (source : Source σ) (volume : Float32)

theorem transferScript_not_cancelled (width remaining frames : Nat) (scratch : Scratch) (s : σ) :
    (source.transferScript volume neverCancelled width remaining frames scratch
      s).result.cancelled = false := by
  induction remaining using Nat.strongRecOn generalizing frames scratch s with
  | ind remaining ih =>
      rw [transferScript]
      by_cases hremaining : remaining = 0
      · rw [if_pos hremaining]
        rfl
      · rw [if_neg hremaining, if_neg (show ¬ neverCancelled s = true from Bool.false_ne_true)]
        dsimp only
        split
        · rfl
        · exact ih _ (by omega) _ _ _

/-- How the script of a run under the flag compares with that of the run without it, which makes
`calls` after those of the past. -/
structure Cut (raised : Nat → σ → Bool) (frames : Nat) (past calls : List (FillCall σ))
    (free run : Script Report (List (FillCall σ) × σ)) : Prop where
  listed : free.source.1 = past ++ calls
  seen : ∀ number, FirstSeen (fun poll => raised (past.length + poll)) calls number →
    run.result = ⟨frames + FillCall.totalTaken (calls.take number), true⟩ ∧
      run.source.1 = past ++ calls.take number ∧
      run.requests = free.requests.take number ∧ number ≤ free.requests.length
  unseen : (∀ number call, calls[number]? = some call →
    raised (past.length + number) call.source = false) → run = free

namespace Cut

variable {raised : Nat → σ → Bool} {frames : Nat} {past calls rest : List (FillCall σ)}
  {call : FillCall σ} {free run : Script Report (List (FillCall σ) × σ)}

theorem same (hlisted : free.source.1 = past ++ calls)
    (hunseen : ∀ number call, calls[number]? = some call →
      raised (past.length + number) call.source = false) : Cut raised frames past calls free free where
  listed := hlisted
  seen number hseen := by
    obtain ⟨⟨call, hcall, hraised⟩, -⟩ := hseen
    exact absurd hraised (by simp [hunseen number call hcall])
  unseen _ := rfl

theorem now (hlisted : free.source.1 = past ++ call :: rest)
    (hseen : raised past.length call.source = true) (s : σ) :
    Cut raised frames past (call :: rest) free (.done ⟨frames, true⟩ (past, s)) where
  listed := hlisted
  seen number hfirst := by
    obtain rfl := hfirst.eq_zero hseen
    exact ⟨rfl, (List.append_nil past).symm, rfl, Nat.zero_le _⟩
  unseen hunseen := by
    have hfalse := hunseen 0 call rfl
    rw [Nat.add_zero, hseen] at hfalse
    cases hfalse

theorem later (hunseen : raised past.length call.source = false)
    (h : Cut raised (frames + call.taken) (past ++ [call]) rest free run)
    (state : List (FillCall σ) × σ) (write : SinkCall) :
    Cut raised frames past (call :: rest) (free.cons state write) (run.cons state write) where
  listed := by simpa [Script.cons] using h.listed
  seen number hfirst := by
    obtain ⟨later, rfl, hlater⟩ := hfirst.tail hunseen
    -- the rest has one poll more behind it and counts its own from zero
    have hshift : (fun poll => raised ((past ++ [call]).length + poll)) =
        fun poll => raised (past.length + (poll + 1)) := by
      funext poll
      rw [List.length_append, List.length_singleton, Nat.add_assoc, Nat.add_comm 1]
    obtain ⟨hresult, hsource, hrequests, hle⟩ := h.seen later (by rwa [hshift])
    refine ⟨?_, ?_, ?_, Nat.succ_le_succ (by simpa [Script.requests] using hle)⟩
    · rw [List.take_succ_cons, FillCall.totalTaken_cons, ← Nat.add_assoc]
      exact hresult
    · simpa [Script.cons] using hsource
    · exact congrArg (List.cons write) hrequests
  unseen hnone := by
    have hrest : run = free := h.unseen fun number other hother => by
      have hfalse := hnone (number + 1) other hother
      rwa [List.length_append, List.length_singleton, Nat.add_assoc, Nat.add_comm 1]
    rw [hrest]

end Cut

theorem transferScript_cut (raised : Nat → σ → Bool) (width remaining frames : Nat)
    (scratch : Scratch) (past : List (FillCall σ)) (s : σ) :
    ∃ calls, Cut raised frames past calls
      (source.logged.transferScript volume neverCancelled width remaining frames scratch (past, s))
      (source.logged.transferScript volume (onSchedule raised) width remaining frames scratch
        (past, s)) := by
  induction remaining using Nat.strongRecOn generalizing frames scratch past s with
  | ind remaining ih =>
      by_cases hremaining : remaining = 0
      · subst hremaining
        rw [transferScript, transferScript, if_pos rfl, if_pos rfl]
        exact ⟨[], .same (List.append_nil past).symm fun _ _ hcall => absurd hcall (by simp)⟩
      · rw [source.transferScript_logged volume neverCancelled hremaining,
          source.transferScript_logged volume (onSchedule raised) hremaining]
        -- the poll finds the source in the state in which the call is made
        have hflag : onSchedule raised (past, s) =
            raised past.length (source.callFor remaining scratch s).source := rfl
        dsimp only
        rw [hflag]
        generalize source.callFor remaining scratch s = call
        generalize source.pull volume remaining scratch s = chunk
        simp only [neverCancelled, if_false, Bool.false_eq_true]
        by_cases hdry : call.taken = 0
        · -- the last call of the free run; the poll before it may still see the flag
          rw [if_pos hdry, if_pos hdry]
          refine ⟨[call], ?_⟩
          cases hseen : raised past.length call.source with
          | true => exact .now rfl hseen s
          | false =>
              refine .same rfl fun number other hother => ?_
              cases number with
              | zero =>
                  cases hother
                  exact hseen
              | succ number => cases hother
        · rw [if_neg hdry, if_neg hdry]
          obtain ⟨rest, h⟩ := ih (remaining - call.taken) (by omega) (frames + call.taken)
            chunk.scratch (past ++ [call]) chunk.source
          refine ⟨call :: rest, ?_⟩
          cases hseen : raised past.length call.source with
          | true => exact .now (by simpa [Script.cons] using h.listed) hseen s
          | false => exact h.later hseen _ _

theorem rawScript_cut (raised : Nat → σ → Bool) (width total : Nat) (s : σ) :
    let free := source.rawScript volume neverCancelled width total s
    let calls := (source.logged.rawScript volume neverCancelled width total ([], s)).source.1
    let run := source.logged.rawScript volume (onSchedule raised) width total ([], s)
    ∃ chunks : List (Array Int16), free.requests = chunks.map .write ∧
      (∀ count, FirstSeen raised calls count →
        run.result.cancelled = true ∧ run.requests = (chunks.take count).map .write ∧
          run.source.1 = calls.take count ∧ count ≤ chunks.length ∧
          width * run.result.frames = ((chunks.take count).map Array.size).sum) ∧
      ((∀ number call, calls[number]? = some call → raised number call.source = false) →
        run.result = free.result ∧ run.requests = free.requests ∧
          run.source = (calls, free.source)) := by
  intro free calls run
  obtain ⟨_, chunks, hfree⟩ := source.rawScript_accounts volume neverCancelled width total s
  obtain ⟨_, sent, hsent⟩ := source.rawScript_accounts volume (onSchedule raised) width total s
  obtain ⟨listed, hcut⟩ := source.transferScript_cut volume raised width total 0 .empty [] s
  have hunlogged : (source.logged.rawScript volume neverCancelled width total ([], s)).mapSource
      Prod.snd = free := source.rawScript_unlogged volume neverCancelled width total s
  have hcalls : calls = listed := hcut.listed
  have hrequests : free.requests = chunks.map .write := by
    rw [← hunlogged, Script.requests_mapSource, hfree.requests]
  have hpolls : (fun poll => raised (([] : List (FillCall σ)).length + poll)) = raised := by
    funext poll
    rw [List.length_nil, Nat.zero_add]
  refine ⟨chunks, hrequests, fun count hseen => ?_, fun hunseen => ?_⟩
  · obtain ⟨hresult, hsource, hcutRequests, hle⟩ := hcut.seen count (by rwa [hpolls, ← hcalls])
    have htake : run.requests = (chunks.take count).map .write := by
      rw [List.map_take, ← hfree.requests]
      exact hcutRequests
    have hchunks : sent = chunks.take count := by
      apply (List.map_inj_right fun _ _ => SinkCall.write.inj).mp
      rw [← hsent.requests, ← htake]
    refine ⟨congrArg Report.cancelled hresult, htake, ?_, ?_, ?_⟩
    · rw [hcalls]
      exact hsource
    · have hlength := hle
      change count ≤ (source.logged.rawScript volume neverCancelled width total
        ([], s)).requests.length at hlength
      rwa [hfree.requests, List.length_map] at hlength
    · rw [← hchunks]
      exact hsent.sum_sizes
  · have hsame : run = source.logged.rawScript volume neverCancelled width total ([], s) :=
      hcut.unseen fun number call hcall => by
        rw [List.length_nil, Nat.zero_add]
        exact hunseen number call (hcalls ▸ hcall)
    rw [hsame, ← hunlogged]
    exact ⟨rfl, (Script.requests_mapSource _ _).symm, rfl⟩

end Source

/--
A flag only cuts, whenever it is raised and by whom.  Let `count` be the first poll that sees it.
The sink then gets silence, the first `count` chunks of the run without a flag, and silence, the
source is called `count` times, as it would have been, and the report counts the frames of these
chunks.  If no poll sees the flag, then nothing differs from the run without it.
-/
theorem cancelling_cuts {sink : Sink ω} (hsink : sink.NeverFails) (source : Source σ)
    (total : Nat) (volume : Float32) (raised : Nat → σ → Bool) (s : σ) (out : ω) :
    let free := playPadded sink source total volume neverCancelled s out
    let calls := (playPadded sink source.logged total volume neverCancelled ([], s) out).source.1
    let run := playPadded sink source.logged total volume (Source.onSchedule raised) ([], s) out
    ∃ chunks : List (Array Int16),
      (playRaw (Sink.recorder sink.rate sink.channels) source total volume neverCancelled s
        []).out = chunks.map .write ∧
      free.out = sink.after
        (.write sink.silence :: chunks.map .write ++ [.write sink.silence]) out ∧
      (∀ count, FirstSeen raised calls count →
        ∃ frames, run.result = .ok ⟨frames, true⟩ ∧
          run.out = sink.after
            (.write sink.silence :: (chunks.take count).map .write ++ [.write sink.silence]) out ∧
          run.source.1 = calls.take count ∧ run.source.1.length = count ∧
          count ≤ chunks.length ∧
          sink.width * frames = ((chunks.take count).map Array.size).sum) ∧
      ((∀ number call, calls[number]? = some call → raised number call.source = false) →
        run.result = free.result ∧ run.out = free.out ∧ run.source = (calls, free.source) ∧
          ∃ frames, free.result = .ok ⟨frames, false⟩) := by
  intro free calls run
  obtain ⟨chunks, hrequests, hseen, hunseen⟩ :=
    source.rawScript_cut volume raised sink.width total s
  have hnever := source.transferScript_not_cancelled volume sink.width total 0 .empty s
  have hfree : free = _ := hsink.playPadded source volume neverCancelled total s out
  have hwatched := hsink.playPadded source.logged volume neverCancelled total ([], s) out
  have hcalls : calls = _ := congrArg (·.source.1) hwatched
  have hrun : run = _ :=
    hsink.playPadded source.logged volume (Source.onSchedule raised) total ([], s) out
  have hrecorded := (Script.recorder_neverFails sink.rate sink.channels).playRaw source volume
    neverCancelled total s []
  rw [← hcalls] at hseen hunseen
  dsimp only at hfree hrun
  refine ⟨chunks, ?_, ?_, fun count hfirst => ?_, fun hnone => ?_⟩
  · rw [hrecorded]
    exact (Script.recorder_after sink.rate sink.channels _ _).trans hrequests
  · rw [hfree, ← hrequests]
  · obtain ⟨hcancelled, hsent, hcalled, hle, hframes⟩ := hseen count hfirst
    have hthere : count ≤ calls.length := by
      obtain ⟨⟨call, hcall, -⟩, -⟩ := hfirst
      exact Nat.le_of_lt (List.getElem?_eq_some_iff.mp hcall).1
    have hsource : run.source.1 = calls.take count := (congrArg (·.source.1) hrun).trans hcalled
    refine ⟨_, ?_, ?_, hsource, ?_, hle, hframes⟩
    · rw [hrun, ← hcancelled]
    · rw [hrun, ← hsent]
    · rw [hsource, List.length_take_of_le hthere]
  · obtain ⟨hresult, hsent, hsource⟩ := hunseen hnone
    refine ⟨?_, ?_, ?_, ?_⟩
    · rw [hrun, hfree, hresult]
    · rw [hrun, hfree, hsent]
    · rw [hrun, hfree]
      exact hsource
    · refine ⟨(source.rawScript volume neverCancelled sink.width total s).result.frames, ?_⟩
      rw [hfree, ← hnever]
      rfl

def Source.interrupting : Source Bool := ⟨fun {room} buffer _ => ⟨room, buffer, true⟩⟩

theorem Source.interrupting_calls {sink : Sink ω} (hsink : sink.NeverFails) (volume : Float32)
    (out : ω) :
    (playPadded sink interrupting.logged 600 volume neverCancelled ([], false) out).source.1 =
      [⟨false, 512, 512⟩, ⟨true, 88, 88⟩] := by
  have hcall (remaining : Nat) (scratch : Scratch) (s : Bool) :
      interrupting.callFor remaining scratch s =
        ⟨s, min remaining chunkMax, min remaining chunkMax⟩ := rfl
  have hnext (remaining : Nat) (scratch : Scratch) (s : Bool) :
      (interrupting.pull volume remaining scratch s).source = true := rfl
  rw [hsink.playPadded interrupting.logged volume neverCancelled 600 ([], false) out, rawScript,
    transferScript_logged _ _ _ (by decide)]
  simp only [hcall, hnext, FillCall.taken, chunkMax, neverCancelled]
  rw [if_neg (by decide), if_neg (by decide), transferScript_logged _ _ _ (by decide)]
  simp only [hcall, hnext, FillCall.taken, chunkMax, neverCancelled]
  rw [if_neg (by decide), if_neg (by decide), transferScript, if_pos (by decide)]
  simp [Script.cons, Script.done]

theorem cancelling_cuts_what_a_source_interrupts :
    (Recording.sink 8000 2).NeverFails ∧
      ∃ (chunks : List (Array Int16)) (frames : Nat) (run : Outcome Report _ Recording),
        (playRaw (Sink.recorder 8000 2) Source.interrupting 600 1 neverCancelled false []).out =
          chunks.map .write ∧
        playPadded (Recording.sink 8000 2) Source.interrupting.logged 600 1
          (Source.onSchedule fun _ raised => raised) ([], false) .empty = run ∧
        run.result = .ok ⟨frames, true⟩ ∧
        run.out = (Recording.sink 8000 2).after
          (.write (Recording.sink 8000 2).silence :: (chunks.take 1).map .write ++
            [.write (Recording.sink 8000 2).silence]) .empty ∧
        run.source.1 = [⟨false, 512, 512⟩] := by
  have hsink := Recording.sink_neverFails 8000 2
  obtain ⟨chunks, hchunks, -, hseen, -⟩ :=
    cancelling_cuts hsink Source.interrupting 600 1 (fun _ raised => raised) false .empty
  rw [Source.interrupting_calls hsink] at hseen
  have hfirst : FirstSeen (fun _ raised => raised)
      [(⟨false, 512, 512⟩ : FillCall Bool), ⟨true, 88, 88⟩] 1 := by
    refine ⟨⟨⟨true, 88, 88⟩, rfl, rfl⟩, fun earlier hearlier call hcall => ?_⟩
    cases Nat.lt_one_iff.mp hearlier
    cases hcall
    rfl
  obtain ⟨frames, hresult, hout, hsource, -, -, -⟩ := hseen 1 hfirst
  exact ⟨hsink, chunks, frames, _, hchunks, rfl, hresult, hout, hsource⟩

end PulseTracker
