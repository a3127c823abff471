import PulseTracker.Audio.Playback

/-!
# Sources that fill alike

Playback sees nothing of a source but the buffers it fills.  Two sources that go
on filling them alike are played alike on every sink, also on one that fails and
also when the flag is raised.
-/

namespace PulseTracker

structure Source.Alike (source : Source σ) (other : Source τ) (related : σ → τ → Prop) :
    Prop where
  claimed : ∀ {room} (buffer : Vector Int16 room) {s t}, related s t →
    (source.fill buffer s).claimed = (other.fill buffer t).claimed
  buffer : ∀ {room} (buffer : Vector Int16 room) {s t}, related s t →
    (source.fill buffer s).buffer = (other.fill buffer t).buffer
  source : ∀ {room} (buffer : Vector Int16 room) {s t}, related s t →
    related (source.fill buffer s).source (other.fill buffer t).source

variable {source : Source σ} {other : Source τ} {related : σ → τ → Prop}

theorem Source.Alike.pull (h : source.Alike other related) (volume : Float32) (remaining : Nat)
    (scratch : Scratch) {s : σ} {t : τ} (hst : related s t) :
    (source.pull volume remaining scratch s).samples =
        (other.pull volume remaining scratch t).samples ∧
      (source.pull volume remaining scratch s).scratch =
        (other.pull volume remaining scratch t).scratch ∧
      related (source.pull volume remaining scratch s).source
        (other.pull volume remaining scratch t).source := by
  simp only [Source.pull, h.claimed _ hst, h.buffer _ hst, true_and]
  exact h.source _ hst

variable {cancel : σ → Bool} {cancel' : τ → Bool}

theorem Source.Alike.transfer (h : source.Alike other related)
    (hcancel : ∀ {s t}, related s t → cancel s = cancel' t) (sink : Sink ω) (volume : Float32)
    (remaining frames : Nat) (scratch : Scratch) {s : σ} {t : τ} (hst : related s t) (out : ω) :
    (transfer sink source volume cancel remaining frames scratch s out).result =
        (transfer sink other volume cancel' remaining frames scratch t out).result ∧
      (transfer sink source volume cancel remaining frames scratch s out).out =
        (transfer sink other volume cancel' remaining frames scratch t out).out := by
  induction remaining using Nat.strongRecOn generalizing frames scratch s t out with
  | ind remaining ih =>
      rw [PulseTracker.transfer, PulseTracker.transfer, hcancel hst]
      by_cases hremaining : remaining = 0
      · simp only [if_pos hremaining, true_and]
      · rw [if_neg hremaining, if_neg hremaining]
        by_cases hflag : cancel' t = true
        · simp only [if_pos hflag, true_and]
        · rw [if_neg hflag, if_neg hflag]
          obtain ⟨hsamples, hscratch, hrest⟩ := h.pull volume remaining scratch hst
          dsimp only
          rw [hsamples, hscratch]
          by_cases hdry : (other.pull volume remaining scratch t).samples.size = 0
          · simp only [if_pos hdry, true_and]
          · rw [if_neg hdry, if_neg hdry]
            cases sink.writeMono (other.pull volume remaining scratch t).samples out with
            | mk written out' =>
                cases written with
                | error error => exact ⟨rfl, rfl⟩
                | ok _ => exact ih _ (by omega) _ _ hrest out'

theorem Source.Alike.playPadded (h : source.Alike other related)
    (hcancel : ∀ {s t}, related s t → cancel s = cancel' t) (sink : Sink ω) (total : Nat)
    (volume : Float32) {s : σ} {t : τ} (hst : related s t) (out : ω) :
    (playPadded sink source total volume cancel s out).result =
        (playPadded sink other total volume cancel' t out).result ∧
      (playPadded sink source total volume cancel s out).out =
        (playPadded sink other total volume cancel' t out).out := by
  simp only [PulseTracker.playPadded, playRaw]
  cases sink.writeSilence (paddingLength sink.rate) out with
  | mk primed out' =>
      cases primed with
      | error error => exact ⟨rfl, rfl⟩
      | ok _ =>
          obtain ⟨hresult, hout⟩ := h.transfer hcancel sink volume total 0 .empty hst out'
          dsimp only
          generalize PulseTracker.transfer sink source volume cancel total 0 .empty s out' =
            first at hresult hout ⊢
          generalize PulseTracker.transfer sink other volume cancel' total 0 .empty t out' =
            second at hresult hout ⊢
          obtain ⟨result, s', left⟩ := first
          obtain ⟨result', t', right⟩ := second
          simp only at hresult hout
          subst hresult hout
          cases result with
          | error error => exact ⟨rfl, rfl⟩
          | ok report =>
              dsimp only
              cases sink.writeSilence (paddingLength sink.rate) left with
              | mk tailed last => cases tailed <;> exact ⟨rfl, rfl⟩

end PulseTracker
