import PulseTracker.Proofs.Audio.Delivery

/-!
# Cuts of the source

A source may hand its samples out in pieces of any length, as long as a piece is
empty only when nothing is left.  What a sink receives, and what is reported,
depends on the samples alone and not on the pieces.
-/

namespace PulseTracker

/-- A list in pieces: call `n` gives `cuts n` samples, but at least one of those that are left and
no more than fit. -/
def Source.inPieces (cuts : Nat → Nat) : Source (Nat × List Int16) where
  fill {room} buffer state :=
    let piece := state.2.take (min room (max 1 (cuts state.1)))
    { claimed := piece.length
      buffer := overwrite piece.toArray buffer
      source := (state.1 + 1, state.2.drop piece.length) }

theorem Source.inPieces_yields (cuts : Nat → Nat) :
    (inPieces cuts).Yields fun state xs => state.2 = xs where
  claimed_le {room} buffer state xs _ := by
    simp only [inPieces, List.length_take]
    omega
  written {room} buffer state xs hstate := by
    subst hstate
    have hsize : (state.2.take (min room (max 1 (cuts state.1)))).toArray.size ≤ room := by
      rw [List.size_toArray, List.length_take]
      omega
    have hwritten := overwrite_take buffer hsize
    rw [List.size_toArray] at hwritten
    simp only [inPieces]
    rw [hwritten, List.length_take, List.take_eq_take_iff]
    omega
  rest buffer state xs hstate := by
    subst hstate
    rfl
  dry {room} buffer state xs hstate hnone := by
    subst hstate
    simp only [inPieces, List.length_take] at hnone
    rw [← List.length_eq_zero_iff]
    omega

/--
A stream is silence, the first `total` samples of the source, and silence again; without the
silence it is these samples alone, and samples that are already rendered are played whole.  Each
sample is scaled, and repeated for every channel.
-/
theorem playback_of_any_cuts {sink : Sink ω} {received : ω → Array Int16} {source : Source σ}
    {yields : σ → List Int16 → Prop} (hsink : sink.Accepts received)
    (hsource : source.Yields yields) {s : σ} {xs : List Int16} (hs : yields s xs)
    (total : Nat) (volume : Float32) (samples : Array Int16) (out : ω) :
    let silence : Array Int16 := Array.replicate (paddingLength sink.rate * sink.width) 0
    let heard (mono : Array Int16) := interleave sink.width (scaleSamples volume mono)
    let report : Except SoundError Report := .ok ⟨min total xs.length, false⟩
    ((playPadded sink source total volume neverCancelled s out).result = report ∧
      received (playPadded sink source total volume neverCancelled s out).out =
        received out ++ silence ++ heard (xs.take total).toArray ++ silence) ∧
    ((playRaw sink source total volume neverCancelled s out).result = report ∧
      received (playRaw sink source total volume neverCancelled s out).out =
        received out ++ heard (xs.take total).toArray) ∧
    (playSamples sink samples volume out).1 = .ok ⟨samples.size, false⟩ ∧
      received (playSamples sink samples volume out).2 = received out ++ heard samples := by
  intro silence heard report
  have hpadded := hsource.playPadded hsink total volume hs out
  have hraw := hsource.playRaw hsink total volume hs out
  have hsamples := playSamples_delivers hsink samples volume out
  exact ⟨hpadded, hraw, hsamples⟩

theorem playback_of_any_cuts_in_pieces :
    let sink := Recording.sink 8000 2
    let source := Source.inPieces (· % 3)
    let xs : List Int16 := [1000, -2000, 300, -4, 32767]
    sink.Accepts Recording.samples ∧ source.Yields (fun state xs => state.2 = xs) ∧
      (playPadded sink source 4 0.25 neverCancelled (0, xs) .empty).result = .ok ⟨4, false⟩ ∧
      (playPadded sink source 4 0.25 neverCancelled (0, xs) .empty).out.samples =
        Array.replicate 80 0 ++ interleave 2 (scaleSamples 0.25 #[1000, -2000, 300, -4]) ++
          Array.replicate 80 0 := by
  intro sink source xs
  have hsink : sink.Accepts Recording.samples := Recording.sink_accepts 8000 2
  have hsource : source.Yields (fun state xs => state.2 = xs) := Source.inPieces_yields _
  have hwidth : sink.width = 2 := by decide
  have hpadding : paddingLength sink.rate = 40 := by decide
  obtain ⟨⟨hresult, hreceived⟩, -⟩ :=
    playback_of_any_cuts hsink hsource (s := (0, xs)) rfl 4 0.25 #[] .empty
  have hnothing : Recording.samples .empty = #[] := rfl
  rw [hwidth, hpadding, hnothing, Array.empty_append] at hreceived
  exact ⟨hsink, hsource, hresult, hreceived⟩

end PulseTracker
