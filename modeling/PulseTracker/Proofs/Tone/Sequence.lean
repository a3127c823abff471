import PulseTracker.Proofs.Tone.Burst

/-!
# Tones one after the other

Nothing goes from one tone of a sequence to the next but the number of frames so far.  So what is
asked of a sink for a sequence is put together of what its tones ask, each as if it were alone and
with a gap behind it, and two sequences in turn are played as a single one.
-/

namespace PulseTracker

theorem Sink.after_append (sink : Sink ω) (first second : List SinkCall) (out : ω) :
    sink.after (first ++ second) out = sink.after second (sink.after first out) :=
  List.foldl_append

namespace Tone

variable (volume : Float32)

def writes (rate : UInt32) (width : Nat) (tone : Tone) : List SinkCall :=
  (tone.script volume rate width).requests ++
    if gapLength rate = 0 then [] else [silentCall width (gapLength rate)]

theorem scriptFrom_requests (rate : UInt32) (width : Nat) (tones : List Tone) (frames : Nat) :
    (scriptFrom volume rate width tones frames).requests =
      tones.flatMap (writes volume rate width) := by
  induction tones generalizing frames with
  | nil => rfl
  | cons tone rest ih =>
      have hrest := ih (frames + (tone.script volume rate width).result.frames)
      rw [List.flatMap_cons, ← hrest]
      simp only [scriptFrom, Script.requests, Script.bind, writes, List.map_append,
        List.append_assoc]
      split
      · rfl
      · rfl

theorem scriptFrom_result (rate : UInt32) (channels : UInt16) (tones : List Tone) (frames : Nat) :
    (scriptFrom volume rate (widthOf channels) tones frames).result =
      ⟨frames + (tones.map fun tone => (Burst.start tone volume rate).total).sum, false⟩ := by
  induction tones generalizing frames with
  | nil => rfl
  | cons tone rest ih =>
      have hfirst := (tone.script_writes volume rate channels).1
      simp only [scriptFrom, Script.bind, hfirst, List.map_cons, List.sum_cons, ← Nat.add_assoc]
      rw [← ih]
      split
      · rfl
      · rfl

theorem writes_samples (rate : UInt32) (channels : UInt16) (tone : Tone) :
    ∃ given : List (Array Int16),
      writes volume rate (widthOf channels) tone = given.map .write ∧
        given.flatMap Array.toList =
          (Burst.start tone volume rate).whole.flatMap (List.replicate (widthOf channels)) ++
            List.replicate (gapLength rate * widthOf channels) 0 := by
  obtain ⟨-, given, hgiven, hsamples⟩ := tone.script_writes volume rate channels
  rw [writes, hgiven, ← hsamples]
  by_cases hgap : gapLength rate = 0
  · refine ⟨given, by rw [if_pos hgap, List.append_nil], ?_⟩
    rw [hgap, Nat.zero_mul, List.replicate_zero, List.append_nil]
  · refine ⟨given ++ [Array.replicate (gapLength rate * widthOf channels) 0], ?_, ?_⟩
    · rw [if_neg hgap, List.map_append]
      rfl
    · rw [List.flatMap_append]
      simp

theorem flatMap_writes_samples (rate : UInt32) (channels : UInt16) (tones : List Tone) :
    ∃ given : List (Array Int16),
      tones.flatMap (writes volume rate (widthOf channels)) = given.map .write ∧
        given.flatMap Array.toList = tones.flatMap fun tone =>
          (Burst.start tone volume rate).whole.flatMap (List.replicate (widthOf channels)) ++
            List.replicate (gapLength rate * widthOf channels) 0 := by
  induction tones with
  | nil => exact ⟨[], rfl, rfl⟩
  | cons tone rest ih =>
      obtain ⟨first, hfirst, hsamples⟩ := writes_samples volume rate channels tone
      obtain ⟨later, hlater, hrest⟩ := ih
      refine ⟨first ++ later, ?_, ?_⟩
      · rw [List.flatMap_cons, hfirst, hlater, List.map_append]
      · rw [List.flatMap_append, hsamples, hrest, List.flatMap_cons]

theorem playAll_of_neverFails {sink : Sink ω} (hsink : sink.NeverFails) (tones : List Tone)
    (out : ω) :
    playAll tones sink volume out =
      (.ok ⟨(tones.map fun tone => (Burst.start tone volume sink.rate).total).sum, false⟩,
        sink.after (tones.flatMap (writes volume sink.rate (widthOf sink.channels))) out) := by
  have hplay := Outcome.eq_of_grants (playFrom_follows volume sink tones 0 out)
    (hsink.grants _ out)
  rw [scriptFrom_requests, scriptFrom_result, Nat.zero_add] at hplay
  exact hplay

/--
On a sink that never fails, a sequence writes the samples of its tones, each tone with the gap
behind it and each sample once for every channel, and reports the samples without the gaps.  Two
sequences in turn write and report the same as a single one.
-/
theorem playAll_concatenates {sink : Sink ω} (hsink : sink.NeverFails) (tones more : List Tone)
    (out : ω) :
    let total (tone : Tone) := (Burst.start tone volume sink.rate).total
    let heard (tone : Tone) :=
      (Burst.start tone volume sink.rate).whole.flatMap (List.replicate sink.width) ++
        List.replicate (sink.rate.toNat * 10 / 1000 * sink.width) 0
    (∃ given : List (Array Int16),
      playAll tones sink volume out =
          (.ok ⟨(tones.map total).sum, false⟩, sink.after (given.map .write) out) ∧
        given.flatMap Array.toList = tones.flatMap heard) ∧
    ∃ (first second : Report) (between last : ω),
      playAll tones sink volume out = (.ok first, between) ∧
        playAll more sink volume between = (.ok second, last) ∧
        playAll (tones ++ more) sink volume out =
          (.ok ⟨first.frames + second.frames, false⟩, last) := by
  intro total heard
  obtain ⟨given, hgiven, hsamples⟩ :=
    flatMap_writes_samples volume sink.rate sink.channels tones
  constructor
  · refine ⟨given, ?_, hsamples⟩
    rw [playAll_of_neverFails volume hsink, hgiven]
  · refine ⟨_, _, _, _, playAll_of_neverFails volume hsink tones out,
      playAll_of_neverFails volume hsink more _, ?_⟩
    rw [playAll_of_neverFails volume hsink, List.flatMap_append, Sink.after_append,
      List.map_append, List.sum_append]

theorem playAll_concatenates_with_fade :
    let sink := Sink.recorder 8000 2
    let tones : List Tone := [⟨523.25, 10⟩, ⟨659.26, 10⟩]
    let more : List Tone := [⟨440, 0⟩]
    sink.NeverFails ∧
      (∃ given : List (Array Int16),
        playAll tones sink 0.5 [] = (.ok ⟨560, false⟩, given.map .write) ∧
          given.flatMap Array.toList = tones.flatMap fun tone =>
            (Burst.start tone 0.5 8000).whole.flatMap (List.replicate 2) ++
              List.replicate 160 0) ∧
      ∃ (second : Report) (last : List SinkCall),
        playAll more sink 0.5 (playAll tones sink 0.5 []).2 = (.ok second, last) ∧
          playAll (tones ++ more) sink 0.5 [] = (.ok ⟨560 + second.frames, false⟩, last) := by
  intro sink tones more
  have hsink : sink.NeverFails := Script.recorder_neverFails 8000 2
  have htotal : (tones.map fun tone => (Burst.start tone 0.5 8000).total).sum = 560 := by decide
  obtain ⟨⟨given, hplay, hsamples⟩, first, second, between, last, hfirst, hsecond, hboth⟩ :=
    playAll_concatenates 0.5 hsink tones more []
  have hgap : sink.rate.toNat * 10 / 1000 * sink.width = 160 := by decide
  rw [show sink.rate = 8000 from rfl, htotal, Script.recorder_after, List.nil_append] at hplay
  rw [hgap] at hsamples
  obtain ⟨hreport, rfl⟩ := Prod.mk.inj (hfirst.symm.trans hplay)
  refine ⟨hsink, ⟨given, hplay, hsamples⟩, second, last, ?_, ?_⟩
  · rw [hfirst]
    exact hsecond
  · rw [hboth, Except.ok.inj hreport]

end Tone

end PulseTracker
