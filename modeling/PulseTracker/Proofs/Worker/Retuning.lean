import PulseTracker.Proofs.Worker.Sounding

/-!
# Retuning a tone

The owner of a tone sets it again while it sounds.  A call writes the pitch, if it can sound, and
then the volume, and the thread reads the two cells one after the other, so that a chunk may have
the pitch of one call and the volume of another.  Each cell goes forward all the same: a chunk gets
nothing older than what was there when it began, and nothing older than the chunk before it.
-/

namespace PulseTracker

/-! ## The owner -/

structure ToneOwner where
  controls : ToneControls
  /-- The volume that the call in progress has yet to write. -/
  owed : Option Float32
  begun : Nat
  /-- The number of the call that wrote the pitch; zero stands for the start. -/
  pitchFrom : Nat
  volumeFrom : Nat

namespace ToneOwner

def start (frequency volume : Float32) : ToneOwner := ⟨.start frequency volume, none, 0, 0, 0⟩

def returned (owner : ToneOwner) : Nat :=
  match owner.owed with
  | none => owner.begun
  | some _ => owner.begun - 1

theorem returned_le (owner : ToneOwner) : owner.returned ≤ owner.begun := by
  unfold returned
  split
  · exact Nat.le_refl _
  · exact Nat.sub_le ..

def writePitch (set : Float32 × Float32) (owner : ToneOwner) : ToneOwner :=
  { owner with
    controls := owner.controls.setFrequency set.1
    owed := some set.2
    begun := owner.begun + 1
    pitchFrom := if ToneControls.usable set.1 then owner.begun + 1 else owner.pitchFrom }

def writeVolume (volume : Float32) (owner : ToneOwner) : ToneOwner :=
  { owner with
    controls := owner.controls.setVolume volume
    owed := none
    volumeFrom := owner.begun }

def write (sets : List (Float32 × Float32)) (owner : ToneOwner) : ToneOwner :=
  match owner.owed with
  | some volume => owner.writeVolume volume
  | none =>
      match sets[owner.begun]? with
      | none => owner
      | some set => owner.writePitch set

def stop (owner : ToneOwner) : ToneOwner := { owner with controls := owner.controls.stop }

/-- Two writes that nothing comes between are a whole call. -/
theorem write_write {sets : List (Float32 × Float32)} {owner : ToneOwner}
    {set : Float32 × Float32} (hidle : owner.owed = none)
    (hset : sets[owner.begun]? = some set) :
    ((owner.write sets).write sets).controls = owner.controls.set set.1 set.2 := by
  simp only [write, hidle, hset, writePitch, writeVolume, ToneControls.set]

structure Tracks (first : ToneControls) (sets : List (Float32 × Float32)) (owner : ToneOwner) :
    Prop where
  usable : ToneControls.usable owner.controls.frequency
  pitch : (first.frequency :: sets.map Prod.fst)[owner.pitchFrom]? = some owner.controls.frequency
  volume : (first.volume :: sets.map fun set => unitVolume set.2)[owner.volumeFrom]? =
    some owner.controls.volume
  owed : ∀ volume, owner.owed = some volume →
    ∃ before frequency, owner.begun = before + 1 ∧ sets[before]? = some (frequency, volume)
  pitchFrom_le : owner.pitchFrom ≤ owner.begun
  volumeFrom_eq : owner.volumeFrom = owner.returned
  newest : ∀ number set, sets[number]? = some set → ToneControls.usable set.1 →
    number < owner.begun → number < owner.pitchFrom

theorem start_tracks (frequency volume : Float32) (sets : List (Float32 × Float32)) :
    (start frequency volume).Tracks (.start frequency volume) sets where
  usable := by
    simp only [start, ToneControls.start]
    split
    · assumption
    · decide
  pitch := rfl
  volume := rfl
  owed _ hnone := nomatch hnone
  pitchFrom_le := Nat.le_refl 0
  volumeFrom_eq := rfl
  newest number _ _ _ hbegun := absurd hbegun (Nat.not_lt_zero number)

theorem Tracks.given {frequency volume : Float32} {sets : List (Float32 × Float32)}
    {owner : ToneOwner} (h : owner.Tracks (.start frequency volume) sets) :
    ∃ given, (volume :: sets.map Prod.snd)[owner.volumeFrom]? = some given ∧
      owner.controls.volume = unitVolume given := by
  have hcell : ((volume :: sets.map Prod.snd).map unitVolume)[owner.volumeFrom]? =
      some owner.controls.volume := by
    rw [List.map_cons, List.map_map]
    exact h.volume
  rw [List.getElem?_map] at hcell
  obtain ⟨given, hgiven, hvolume⟩ := Option.map_eq_some_iff.mp hcell
  exact ⟨given, hgiven, hvolume.symm⟩

structure Precedes (earlier later : ToneOwner) : Prop where
  pitch : earlier.pitchFrom ≤ later.pitchFrom
  volume : earlier.volumeFrom ≤ later.volumeFrom

theorem Precedes.refl (owner : ToneOwner) : owner.Precedes owner :=
  ⟨Nat.le_refl _, Nat.le_refl _⟩

theorem Precedes.trans {a b c : ToneOwner} (first : a.Precedes b) (second : b.Precedes c) :
    a.Precedes c :=
  ⟨Nat.le_trans first.pitch second.pitch, Nat.le_trans first.volume second.volume⟩

variable {first : ToneControls} {sets : List (Float32 × Float32)} {owner : ToneOwner}

theorem Tracks.writePitch (h : owner.Tracks first sets) (hidle : owner.owed = none)
    {set : Float32 × Float32} (hset : sets[owner.begun]? = some set) :
    (owner.writePitch set).Tracks first sets := by
  have hreturned : owner.volumeFrom = owner.begun := by
    rw [h.volumeFrom_eq, returned, hidle]
  have howed : ∀ volume, some set.2 = some volume →
      ∃ before frequency,
        owner.begun + 1 = before + 1 ∧ sets[before]? = some (frequency, volume) := by
    intro volume hvolume
    cases hvolume
    exact ⟨owner.begun, set.1, rfl, hset⟩
  have hpitchFrom := h.pitchFrom_le
  cases husable : ToneControls.usable set.1 with
  | true =>
      simp only [ToneOwner.writePitch, ToneControls.setFrequency, husable, if_true]
      refine ⟨husable, ?_, h.volume, howed, Nat.le_refl _, hreturned, ?_⟩
      · rw [List.getElem?_cons_succ, List.getElem?_map, hset]
        rfl
      · intro number _ _ _ hbegun
        exact hbegun
  | false =>
      simp only [ToneOwner.writePitch, ToneControls.setFrequency, husable, Bool.false_eq_true,
        if_false]
      refine ⟨h.usable, h.pitch, h.volume, howed, Nat.le_succ_of_le hpitchFrom, hreturned, ?_⟩
      intro number other hother hcan hbegun
      refine h.newest number other hother hcan (Nat.lt_of_le_of_ne (Nat.le_of_lt_succ hbegun) ?_)
      -- the call that was just begun is not one whose pitch can sound
      rintro rfl
      rw [hset] at hother
      cases hother
      exact absurd hcan (by simp [husable])

theorem Tracks.writeVolume (h : owner.Tracks first sets) {volume : Float32}
    (howed : owner.owed = some volume) : (owner.writeVolume volume).Tracks first sets where
  usable := h.usable
  pitch := h.pitch
  volume := by
    obtain ⟨before, frequency, hbegun, hset⟩ := h.owed volume howed
    simp only [ToneOwner.writeVolume, ToneControls.setVolume, hbegun]
    rw [List.getElem?_cons_succ, List.getElem?_map, hset]
    rfl
  owed _ hnone := nomatch hnone
  pitchFrom_le := h.pitchFrom_le
  volumeFrom_eq := rfl
  newest := h.newest

theorem Tracks.write (h : owner.Tracks first sets) : (owner.write sets).Tracks first sets := by
  unfold ToneOwner.write
  split
  · rename_i volume howed
    exact h.writeVolume howed
  · rename_i hidle
    split
    · exact h
    · rename_i set hset
      exact h.writePitch hidle hset

theorem Tracks.precedes_write (h : owner.Tracks first sets) :
    owner.Precedes (owner.write sets) := by
  have hpitch := h.pitchFrom_le
  have hvolume : owner.volumeFrom ≤ owner.begun := by
    rw [h.volumeFrom_eq]
    exact owner.returned_le
  unfold ToneOwner.write
  split
  · exact ⟨Nat.le_refl _, hvolume⟩
  · split
    · exact .refl owner
    · refine ⟨?_, Nat.le_refl _⟩
      unfold ToneOwner.writePitch
      dsimp only
      split <;> omega

theorem Tracks.stop (h : owner.Tracks first sets) : owner.stop.Tracks first sets :=
  ⟨h.usable, h.pitch, h.volume, h.owed, h.pitchFrom_le, h.volumeFrom_eq, h.newest⟩

end ToneOwner

/-! ## The owner and the thread -/

structure ToneChunk where
  frequency : Float32
  volume : Float32
  atPitch : ToneOwner
  atVolume : ToneOwner

inductive RetuneMove where
  | write
  | stop
  /-- The thread takes a step, in which it reads at most one of the cells. -/
  | work

structure RetunedTone (ω : Type) where
  worker : ToneWorker ω
  owner : ToneOwner
  /-- The owner when the thread read the pitch last. -/
  atPitch : ToneOwner
  atVolume : ToneOwner
  chunks : List ToneChunk

namespace RetunedTone

def start (sink : Sink ω) (frequency volume : Float32) (out : ω) : RetunedTone ω :=
  let owner := ToneOwner.start frequency volume
  ⟨.start sink out, owner, owner, owner, []⟩

def work (sink : Sink ω) (tone : RetunedTone ω) : RetunedTone ω where
  worker := tone.worker.step sink tone.owner.controls
  owner := tone.owner
  atPitch :=
    match tone.worker.stage with
    | .readFrequency _ => tone.owner
    | _ => tone.atPitch
  atVolume :=
    match tone.worker.stage with
    | .readVolume _ _ => tone.owner
    | _ => tone.atVolume
  chunks :=
    match tone.worker.stage with
    | .deliver _ frequency volume =>
        tone.chunks ++ [⟨frequency, volume, tone.atPitch, tone.atVolume⟩]
    | _ => tone.chunks

def move (sink : Sink ω) (sets : List (Float32 × Float32)) (tone : RetunedTone ω) :
    RetuneMove → RetunedTone ω
  | .write => { tone with owner := tone.owner.write sets }
  | .stop => { tone with owner := tone.owner.stop }
  | .work => tone.work sink

def run (sink : Sink ω) (sets : List (Float32 × Float32)) (moves : List RetuneMove)
    (tone : RetunedTone ω) : RetunedTone ω :=
  moves.foldl (move sink sets) tone

end RetunedTone

structure ToneChunk.Read (first : ToneControls) (sets : List (Float32 × Float32))
    (chunk : ToneChunk) : Prop where
  atPitch : chunk.atPitch.Tracks first sets
  atVolume : chunk.atVolume.Tracks first sets
  frequency : chunk.frequency = chunk.atPitch.controls.frequency
  volume : chunk.volume = chunk.atVolume.controls.volume
  order : chunk.atPitch.Precedes chunk.atVolume

namespace RetunedTone

variable {first : ToneControls} {sets : List (Float32 × Float32)} {tone : RetunedTone ω}
  {sink : Sink ω}

/-- What was read for a chunk that is not made yet, no earlier than what any chunk before it got. -/
def Holds (first : ToneControls) (sets : List (Float32 × Float32)) (tone : RetunedTone ω) : Prop :=
  match tone.worker.stage with
  | .readVolume _ frequency =>
      tone.atPitch.Tracks first sets ∧ frequency = tone.atPitch.controls.frequency ∧
        tone.atPitch.Precedes tone.owner ∧
          ∀ chunk ∈ tone.chunks, chunk.atVolume.Precedes tone.atPitch
  | .deliver _ frequency volume =>
      ToneChunk.Read first sets ⟨frequency, volume, tone.atPitch, tone.atVolume⟩ ∧
        tone.atVolume.Precedes tone.owner ∧
          ∀ chunk ∈ tone.chunks, chunk.atVolume.Precedes tone.atPitch
  | _ => True

structure Sound (first : ToneControls) (sets : List (Float32 × Float32)) (tone : RetunedTone ω) :
    Prop where
  owner : tone.owner.Tracks first sets
  chunks : ∀ chunk ∈ tone.chunks, chunk.Read first sets
  past : ∀ chunk ∈ tone.chunks, chunk.atVolume.Precedes tone.owner
  ordered : tone.chunks.Pairwise fun earlier later => earlier.atVolume.Precedes later.atPitch
  holds : tone.Holds first sets

theorem start_sound (sink : Sink ω) (frequency volume : Float32)
    (sets : List (Float32 × Float32)) (out : ω) :
    (start sink frequency volume out).Sound (.start frequency volume) sets where
  owner := ToneOwner.start_tracks frequency volume sets
  chunks := by simp [start]
  past := by simp [start]
  ordered := .nil
  holds := trivial

theorem Sound.goOn (h : tone.Sound first sets) {owner : ToneOwner}
    (howner : owner.Tracks first sets) (hlater : tone.owner.Precedes owner) :
    ({ tone with owner } : RetunedTone ω).Sound first sets where
  owner := howner
  chunks := h.chunks
  past chunk hchunk := (h.past chunk hchunk).trans hlater
  ordered := h.ordered
  holds := by
    have hholds := h.holds
    unfold Holds at hholds ⊢
    dsimp only
    split at hholds
    · obtain ⟨htracks, hfrequency, hbefore, hchunks⟩ := hholds
      exact ⟨htracks, hfrequency, hbefore.trans hlater, hchunks⟩
    · obtain ⟨hread, hbefore, hchunks⟩ := hholds
      exact ⟨hread, hbefore.trans hlater, hchunks⟩
    · trivial

theorem Sound.work (h : tone.Sound first sets) : (tone.work sink).Sound first sets := by
  obtain ⟨howner, hchunks, hpast, hordered, hholds⟩ := h
  obtain ⟨⟨stage, voice, played, out, log⟩, owner, atPitch, atVolume, chunks⟩ := tone
  cases stage with
  | poll => exact ⟨howner, hchunks, hpast, hordered, trivial⟩
  | readFrequency fading =>
      exact ⟨howner, hchunks, hpast, hordered, howner, rfl, .refl owner, hpast⟩
  | readVolume fading frequency =>
      obtain ⟨htracks, hfrequency, hbefore, hearlier⟩ := hholds
      exact ⟨howner, hchunks, hpast, hordered, ⟨htracks, howner, hfrequency, rfl, hbefore⟩,
        .refl owner, hearlier⟩
  | deliver fading frequency volume =>
      -- a chunk is added with what was read for it; those before it had been read by then
      obtain ⟨hread, hbefore, hearlier⟩ := hholds
      refine ⟨howner, ?_, ?_, ?_, ?_⟩
      · simpa [RetunedTone.work, forall_and, or_imp] using ⟨hchunks, hread⟩
      · simpa [RetunedTone.work, forall_and, or_imp] using ⟨hpast, hbefore⟩
      · exact List.pairwise_append.mpr
          ⟨hordered, List.pairwise_singleton .., by simpa using hearlier⟩
      · cases fading with
        | true | false =>
            exact ToneWorker.afterWrite_keeps (P := fun worker => Holds first sets
              ⟨worker, owner, atPitch, atVolume, _⟩) (fun _ _ => trivial) fun _ => trivial
  | tail =>
      refine ⟨howner, hchunks, hpast, hordered, ?_⟩
      exact ToneWorker.afterWrite_keeps (P := fun worker => Holds first sets
        ⟨worker, owner, atPitch, atVolume, chunks⟩) (fun _ _ => trivial) fun _ => trivial
  | flush =>
      refine ⟨howner, hchunks, hpast, hordered, ?_⟩
      simp only [RetunedTone.work, ToneWorker.step]
      cases hflush : sink.flush out with
      | mk result out =>
          cases result with
          | error _ | ok _ => trivial
  | done result => exact ⟨howner, hchunks, hpast, hordered, trivial⟩
  | crashed => exact ⟨howner, hchunks, hpast, hordered, trivial⟩

theorem Sound.move (h : tone.Sound first sets) (sink : Sink ω) (move : RetuneMove) :
    (tone.move sink sets move).Sound first sets := by
  cases move with
  | write => exact h.goOn h.owner.write h.owner.precedes_write
  | stop => exact h.goOn h.owner.stop ⟨Nat.le_refl _, Nat.le_refl _⟩
  | work => exact h.work

theorem Sound.run (h : tone.Sound first sets) (sink : Sink ω) (moves : List RetuneMove) :
    (tone.run sink sets moves).Sound first sets := by
  induction moves generalizing tone with
  | nil => exact h
  | cons move moves ih => exact ih (h.move sink move)

theorem Sound.forward (h : tone.Sound first sets) :
    tone.chunks.Pairwise fun earlier later =>
      earlier.atPitch.pitchFrom ≤ later.atPitch.pitchFrom ∧
        earlier.atVolume.volumeFrom ≤ later.atVolume.volumeFrom := by
  refine h.ordered.imp_of_mem fun {earlier later} hearlier hlater hbetween => ?_
  have hfirst := (h.chunks earlier hearlier).order
  have hsecond := (h.chunks later hlater).order
  exact ⟨Nat.le_trans hfirst.pitch hbetween.pitch, Nat.le_trans hbetween.volume hsecond.volume⟩

end RetunedTone

/--
However the calls of the owner fall between the steps of the thread, the pitch in its cell can sound
and the volume is one that was cut to its range.  A chunk, as well as the fade, has the pitch of a
call or of the start and the volume of the same call or of another one.  Neither is older than what
the calls left that had returned when the pitch was read, and neither is older than in the chunk
before.
-/
theorem retuning_in_order (sink : Sink ω) (frequency volume : Float32) (out : ω)
    (sets : List (Float32 × Float32)) (moves : List RetuneMove) :
    let pitches := (ToneControls.start frequency volume).frequency :: sets.map Prod.fst
    let volumes := volume :: sets.map Prod.snd
    let tone := (RetunedTone.start sink frequency volume out).run sink sets moves
    (ToneControls.usable tone.owner.controls.frequency ∧
      ∃ given ∈ volumes, tone.owner.controls.volume = unitVolume given) ∧
    (∀ chunk ∈ tone.chunks,
      ToneControls.usable chunk.frequency ∧
      pitches[chunk.atPitch.pitchFrom]? = some chunk.frequency ∧
      (∀ number set, sets[number]? = some set → ToneControls.usable set.1 →
        number < chunk.atPitch.returned → number < chunk.atPitch.pitchFrom) ∧
      (∃ given, volumes[chunk.atVolume.volumeFrom]? = some given ∧
        chunk.volume = unitVolume given) ∧
      chunk.atPitch.returned ≤ chunk.atVolume.volumeFrom) ∧
    tone.chunks.Pairwise fun earlier later =>
      earlier.atPitch.pitchFrom ≤ later.atPitch.pitchFrom ∧
        earlier.atVolume.volumeFrom ≤ later.atVolume.volumeFrom := by
  intro pitches volumes tone
  have hsound : tone.Sound (.start frequency volume) sets :=
    (RetunedTone.start_sound sink frequency volume sets out).run sink moves
  refine ⟨⟨hsound.owner.usable, ?_⟩, fun chunk hchunk => ?_, hsound.forward⟩
  · obtain ⟨given, hgiven, hvolume⟩ := hsound.owner.given
    exact ⟨given, List.mem_of_getElem? hgiven, hvolume⟩
  · have hread := hsound.chunks chunk hchunk
    refine ⟨?_, ?_, ?_, ?_, ?_⟩
    · rw [hread.frequency]
      exact hread.atPitch.usable
    · rw [hread.frequency]
      exact hread.atPitch.pitch
    · intro number set hset husable hreturned
      exact hread.atPitch.newest number set hset husable
        (Nat.lt_of_lt_of_le hreturned chunk.atPitch.returned_le)
    · rw [hread.volume]
      exact hread.atVolume.given
    · rw [← hread.atPitch.volumeFrom_eq]
      exact hread.order.volume

theorem retuning_in_order_of_two_calls :
    let sink := Recording.sink 8000 2
    let sets : List (Float32 × Float32) := [(.ofBits 0x7FC00000, 0.5), (440, 2)]
    let moves : List RetuneMove :=
      [.work, .write, .work, .write, .work, .work, .write, .write, .stop, .work, .work, .work,
        .work]
    let tone := (RetunedTone.start sink 600 1 .empty).run sink sets moves
    tone.chunks.map (fun chunk => (chunk.frequency, chunk.atPitch.pitchFrom)) =
        [(600, 0), (440, 2)] ∧
      tone.chunks.map (fun chunk => (chunk.volume, chunk.atVolume.volumeFrom)) =
        [(0.5, 1), (1, 2)] ∧
      tone.chunks.map (fun chunk => chunk.atPitch.returned) = [0, 2] ∧
      (∀ chunk ∈ tone.chunks, 1 < chunk.atPitch.returned → 1 < chunk.atPitch.pitchFrom) ∧
      ∀ chunk ∈ tone.chunks, chunk.atPitch.returned ≤ chunk.atVolume.volumeFrom := by
  intro sink sets moves tone
  have hpitches : tone.chunks.map (fun chunk => (chunk.frequency, chunk.atPitch.pitchFrom)) =
      [(600, 0), (440, 2)] := by
    decide +kernel
  have hvolumes : tone.chunks.map (fun chunk => (chunk.volume, chunk.atVolume.volumeFrom)) =
      [(0.5, 1), (1, 2)] := by
    decide +kernel
  have hreturned : tone.chunks.map (fun chunk => chunk.atPitch.returned) = [0, 2] := by
    decide +kernel
  obtain ⟨-, hchunks, -⟩ := retuning_in_order sink 600 1 .empty sets moves
  refine ⟨hpitches, hvolumes, hreturned, fun chunk hchunk => ?_, fun chunk hchunk => ?_⟩
  · obtain ⟨-, -, hnewest, -, -⟩ := hchunks chunk hchunk
    exact hnewest 1 (440, 2) rfl (by decide)
  · obtain ⟨-, -, -, -, hvolume⟩ := hchunks chunk hchunk
    exact hvolume

end PulseTracker
