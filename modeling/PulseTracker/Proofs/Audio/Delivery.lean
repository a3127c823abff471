import PulseTracker.Audio.Playback
import PulseTracker.Proofs.Audio.Filling

/-!
# What playback delivers

A sink that accepts every write ends up with the samples of the source at the
given volume, once per channel, however the source cuts them into chunks.  The
buffer that is lent to the source again and again leaves no trace: only the part
that was written since the last chunk is used.
-/

namespace PulseTracker

structure Sink.Accepts (sink : Sink ω) (received : ω → Array Int16) : Prop where
  ok : ∀ samples out, (sink.write samples out).1 = .ok ()
  append : ∀ samples out, received (sink.write samples out).2 = received out ++ samples

structure Source.Supplies (source : Source σ) (left : σ → List Int16) : Prop where
  claimed_le : ∀ {room} (buffer : Vector Int16 room) s, (source.fill buffer s).claimed ≤ room
  written : ∀ {room} (buffer : Vector Int16 room) s,
    (source.fill buffer s).buffer.toList.take (source.fill buffer s).claimed =
      (left s).take (source.fill buffer s).claimed
  rest : ∀ {room} (buffer : Vector Int16 room) s,
    left (source.fill buffer s).source = (left s).drop (source.fill buffer s).claimed
  dry : ∀ {room} (buffer : Vector Int16 room) s,
    (source.fill buffer s).claimed = 0 → room = 0 ∨ left s = []

/-- A source that hands out a list in order, some of it at every call while there is any, from every
state that is related to the list. -/
structure Source.Yields (source : Source σ) (yields : σ → List Int16 → Prop) : Prop where
  claimed_le : ∀ {room} (buffer : Vector Int16 room) {s xs}, yields s xs →
    (source.fill buffer s).claimed ≤ room
  written : ∀ {room} (buffer : Vector Int16 room) {s xs}, yields s xs →
    (source.fill buffer s).buffer.toList.take (source.fill buffer s).claimed =
      xs.take (source.fill buffer s).claimed
  rest : ∀ {room} (buffer : Vector Int16 room) {s xs}, yields s xs →
    yields (source.fill buffer s).source (xs.drop (source.fill buffer s).claimed)
  dry : ∀ {room} (buffer : Vector Int16 room) {s xs}, yields s xs →
    (source.fill buffer s).claimed = 0 → room = 0 ∨ xs = []

theorem Source.Supplies.yields {source : Source σ} {left : σ → List Int16}
    (h : source.Supplies left) : source.Yields fun s xs => left s = xs where
  claimed_le buffer s _ _ := h.claimed_le buffer s
  written buffer s _ hs := hs ▸ h.written buffer s
  rest buffer s _ hs := hs ▸ h.rest buffer s
  dry buffer s _ hs := hs ▸ h.dry buffer s

theorem Source.FillsUp.supplies {source : Source σ} {left : σ → List Int16}
    (h : source.FillsUp left) : source.Supplies left where
  claimed_le buffer s := by
    rw [h.claimed]
    exact Nat.min_le_left ..
  written buffer s := by
    rw [h.take_claimed, h.claimed, ← List.take_eq_take_min]
  rest buffer s := by
    rw [h.rest, h.claimed, ← List.drop_eq_drop_min]
  dry buffer s hnone := by
    rw [h.claimed] at hnone
    rw [← List.length_eq_zero_iff]
    omega

theorem Source.ofArray_supplies (samples : Array Int16) :
    (Source.ofArray samples).Supplies fun position => samples.toList.drop position :=
  (Source.ofArray_fillsUp samples).supplies

theorem Recording.sink_accepts (rate : UInt32) (channels : UInt16) :
    (Recording.sink rate channels).Accepts Recording.samples where
  ok _ _ := rfl
  append _ _ := rfl

theorem Sink.Accepts.writeMono {sink : Sink ω} {received : ω → Array Int16}
    (h : sink.Accepts received) (samples : Array Int16) (out : ω) :
    (sink.writeMono samples out).1 = .ok () ∧
      received (sink.writeMono samples out).2 =
        received out ++ interleave sink.width samples :=
  ⟨h.ok _ out, h.append _ out⟩

theorem Sink.Accepts.writeSilence {sink : Sink ω} {received : ω → Array Int16}
    (h : sink.Accepts received) (frames : Nat) (out : ω) :
    (sink.writeSilence frames out).1 = .ok () ∧
      received (sink.writeSilence frames out).2 =
        received out ++ Array.replicate (frames * sink.width) 0 :=
  ⟨h.ok _ out, h.append _ out⟩

/-! ## Volume and channels -/

theorem scaleSamples_append (volume : Float32) (first second : Array Int16) :
    scaleSamples volume (first ++ second) =
      scaleSamples volume first ++ scaleSamples volume second := by
  unfold scaleSamples
  dsimp only
  split
  · rfl
  · exact Array.map_append

theorem scaleSamples_empty (volume : Float32) : scaleSamples volume #[] = #[] := by
  simp [scaleSamples]

theorem interleave_append (channels : Nat) (first second : Array Int16) :
    interleave channels (first ++ second) =
      interleave channels first ++ interleave channels second := by
  exact Array.flatMap_append

theorem interleave_size (channels : Nat) (mono : Array Int16) :
    (interleave channels mono).size = mono.size * channels := by
  obtain ⟨samples⟩ := mono
  simp [interleave, List.map_const']

def Sink.framed (sink : Sink ω) (volume : Float32) (samples : List Int16) : Array Int16 :=
  interleave sink.width (scaleSamples volume samples.toArray)

theorem Sink.framed_append (sink : Sink ω) (volume : Float32) (first second : List Int16) :
    sink.framed volume (first ++ second) =
      sink.framed volume first ++ sink.framed volume second := by
  simp only [framed, ← List.append_toArray, scaleSamples_append, interleave_append]

theorem Sink.framed_nil (sink : Sink ω) (volume : Float32) : sink.framed volume [] = #[] := by
  simp [framed, scaleSamples_empty, interleave]

/-! ## Chunks -/

theorem Source.Yields.pull {source : Source σ} {yields : σ → List Int16 → Prop}
    (h : source.Yields yields) (volume : Float32) {remaining : Nat} (hremaining : remaining ≠ 0)
    (scratch : Scratch) {s : σ} {xs : List Int16} (hs : yields s xs) :
    ∃ count, count ≤ remaining ∧ count ≤ xs.length ∧
      (source.pull volume remaining scratch s).samples =
        scaleSamples volume (xs.take count).toArray ∧
      yields (source.pull volume remaining scratch s).source (xs.drop count) ∧
      (count = 0 → xs = []) := by
  have hle := h.claimed_le (scratch.take remaining) hs
  have hwritten := h.written (scratch.take remaining) hs
  have hrest := h.rest (scratch.take remaining) hs
  have hdry := h.dry (scratch.take remaining) hs
  simp only [Source.pull]
  generalize source.fill (scratch.take remaining) s = filled at *
  have hlength := congrArg List.length hwritten
  simp only [List.length_take, Vector.length_toList] at hlength
  refine ⟨filled.claimed, by omega, by omega, ?_, hrest, fun hnone => ?_⟩
  · congr 1
    apply Array.toList_inj.mp
    rw [Nat.min_eq_left hle, Array.toList_extract, List.extract_eq_take_drop]
    exact hwritten
  · rcases hdry hnone with hroom | hleft
    · exact absurd hroom (by simp [chunkMax, hremaining])
    · exact hleft

theorem Source.Yields.transfer {sink : Sink ω} {received : ω → Array Int16} {source : Source σ}
    {yields : σ → List Int16 → Prop} (hsource : source.Yields yields)
    (hsink : sink.Accepts received) (volume : Float32) (remaining frames : Nat)
    (scratch : Scratch) {s : σ} {xs : List Int16} (hs : yields s xs) (out : ω) :
    (transfer sink source volume neverCancelled remaining frames scratch s out).result =
        .ok ⟨frames + min remaining xs.length, false⟩ ∧
      received (transfer sink source volume neverCancelled remaining frames scratch s out).out =
        received out ++ sink.framed volume (xs.take remaining) := by
  induction remaining using Nat.strongRecOn generalizing frames scratch s xs out with
  | ind remaining ih =>
      rw [PulseTracker.transfer]
      by_cases hremaining : remaining = 0
      · simp [hremaining, Sink.framed_nil]
      · obtain ⟨count, hroom, hthere, hsamples, hrest, hnone⟩ :=
          hsource.pull volume hremaining scratch hs
        have hsize : (source.pull volume remaining scratch s).samples.size = count := by
          rw [hsamples, scaleSamples_size, List.size_toArray, List.length_take]
          omega
        simp only [hremaining, neverCancelled, if_false, Bool.false_eq_true, hsize]
        by_cases hcount : count = 0
        · simp [hcount, hnone hcount, Sink.framed_nil]
        · have hwrite := hsink.writeMono (source.pull volume remaining scratch s).samples out
          have hframed : interleave sink.width (source.pull volume remaining scratch s).samples =
              sink.framed volume (xs.take count) := by rw [hsamples]; rfl
          obtain ⟨hresult, hreceived⟩ := ih (remaining - count) (by omega) (frames + count)
            (source.pull volume remaining scratch s).scratch hrest
            (sink.writeMono (source.pull volume remaining scratch s).samples out).2
          have hsplit : xs.take remaining =
              xs.take count ++ (xs.drop count).take (remaining - count) := by
            rw [← List.take_add, Nat.add_sub_cancel' hroom]
          have hcounts : frames + count + min (remaining - count) (xs.length - count) =
              frames + min remaining xs.length := by omega
          rw [List.length_drop, hcounts] at hresult
          rw [hwrite.2, hframed, Array.append_assoc] at hreceived
          rw [← Prod.eta (sink.writeMono (source.pull volume remaining scratch s).samples out),
            hwrite.1, hsplit, Sink.framed_append]
          simp only [hcount, if_false]
          exact ⟨hresult, hreceived⟩

/-! ## Whole playbacks -/

theorem Source.Yields.playRaw {sink : Sink ω} {received : ω → Array Int16} {source : Source σ}
    {yields : σ → List Int16 → Prop} (hsource : source.Yields yields)
    (hsink : sink.Accepts received) (total : Nat) (volume : Float32) {s : σ}
    {xs : List Int16} (hs : yields s xs) (out : ω) :
    (playRaw sink source total volume neverCancelled s out).result =
        .ok ⟨min total xs.length, false⟩ ∧
      received (playRaw sink source total volume neverCancelled s out).out =
        received out ++ sink.framed volume (xs.take total) := by
  have h := hsource.transfer hsink volume total 0 .empty hs out
  rwa [Nat.zero_add] at h

def Sink.silence (sink : Sink ω) : Array Int16 :=
  Array.replicate (paddingLength sink.rate * sink.width) 0

theorem playPadded_of_ok {sink : Sink ω} {source : Source σ} {total : Nat} {volume : Float32}
    {cancel : σ → Bool} {s : σ} {out primed tailed : ω} {played : Outcome Report σ ω}
    {report : Report}
    (hprime : sink.writeSilence (paddingLength sink.rate) out = (.ok (), primed))
    (hplay : playRaw sink source total volume cancel s primed = played)
    (hreport : played.result = .ok report)
    (htail : sink.writeSilence (paddingLength sink.rate) played.out = (.ok (), tailed)) :
    playPadded sink source total volume cancel s out = ⟨.ok report, played.source, tailed⟩ := by
  obtain ⟨result, source', out'⟩ := played
  cases hreport
  simp only [playPadded, hprime, hplay, htail]

theorem Source.Yields.playPadded {sink : Sink ω} {received : ω → Array Int16} {source : Source σ}
    {yields : σ → List Int16 → Prop} (hsource : source.Yields yields)
    (hsink : sink.Accepts received) (total : Nat) (volume : Float32) {s : σ}
    {xs : List Int16} (hs : yields s xs) (out : ω) :
    (playPadded sink source total volume neverCancelled s out).result =
        .ok ⟨min total xs.length, false⟩ ∧
      received (playPadded sink source total volume neverCancelled s out).out =
        received out ++ sink.silence ++ sink.framed volume (xs.take total) ++
          sink.silence := by
  obtain ⟨hprimed, hprime⟩ := hsink.writeSilence (paddingLength sink.rate) out
  obtain ⟨hresult, hplayed⟩ := hsource.playRaw hsink total volume hs
    (sink.writeSilence (paddingLength sink.rate) out).2
  obtain ⟨htailed, htail⟩ := hsink.writeSilence (paddingLength sink.rate)
    (PulseTracker.playRaw sink source total volume neverCancelled s
      (sink.writeSilence (paddingLength sink.rate) out).2).out
  rw [playPadded_of_ok (Prod.ext hprimed rfl) rfl hresult (Prod.ext htailed rfl)]
  refine ⟨rfl, ?_⟩
  rw [htail, hplayed, hprime]
  rfl

theorem playPadded_delivers {sink : Sink ω} {received : ω → Array Int16} {source : Source σ}
    {left : σ → List Int16} (hsink : sink.Accepts received) (hsource : source.Supplies left)
    (total : Nat) (volume : Float32) (s : σ) (out : ω) :
    (playPadded sink source total volume neverCancelled s out).result =
        .ok ⟨min total (left s).length, false⟩ ∧
      received (playPadded sink source total volume neverCancelled s out).out =
        received out ++ sink.silence ++ sink.framed volume ((left s).take total) ++
          sink.silence :=
  hsource.yields.playPadded hsink total volume rfl out

theorem playSamples_delivers {sink : Sink ω} {received : ω → Array Int16}
    (hsink : sink.Accepts received) (samples : Array Int16) (volume : Float32) (out : ω) :
    (playSamples sink samples volume out).1 = .ok ⟨samples.size, false⟩ ∧
      received (playSamples sink samples volume out).2 =
        received out ++ sink.framed volume samples.toList := by
  obtain ⟨hresult, hplayed⟩ := (Source.ofArray_supplies samples).yields.playRaw hsink
    samples.size volume (s := 0) rfl out
  simp only [List.drop_zero, Array.length_toList, Nat.min_self] at hresult hplayed
  rw [List.take_of_length_le (by simp)] at hplayed
  exact ⟨hresult, hplayed⟩

end PulseTracker
