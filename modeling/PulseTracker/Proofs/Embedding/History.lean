import Mathlib.Data.List.Forall2
import PulseTracker.Embedding
import PulseTracker.Proofs.Song.Delivery
import PulseTracker.Proofs.Song.Loading
import PulseTracker.Proofs.Synth.Magnitude
import PulseTracker.Proofs.Text.Bytes

/-!
# Histories of a host

What a host calls on a handle and what it is answered, against what the same requests get of the
stream itself.
-/

namespace PulseTracker

def answers (respond : S → ι → S × ρ) : S → List ι → S × List ρ
  | s, [] => (s, [])
  | s, call :: calls =>
      let first := respond s call
      let rest := answers respond first.1 calls
      (rest.1, first.2 :: rest.2)

theorem answers_append (respond : S → ι → S × ρ) (s : S) (first second : List ι) :
    answers respond s (first ++ second) =
      let early := answers respond s first
      let late := answers respond early.1 second
      (late.1, early.2 ++ late.2) := by
  induction first generalizing s with
  | nil => rfl
  | cons call first ih => simp only [List.cons_append, answers, ih]

theorem answers_length (respond : S → ι → S × ρ) (s : S) (calls : List ι) :
    (answers respond s calls).2.length = calls.length := by
  induction calls generalizing s with
  | nil => rfl
  | cons call calls ih => simp only [answers, List.length_cons, ih]

inductive Reply where
  | samples (samples : Array Int16)
  | count (count : Nat)
  | step (step : Int)
  | flag (accepted : Bool)
  | nothing
  deriving DecidableEq, Repr

/-! ## Requests to a stream -/

inductive StreamRequest where
  | render (room : Nat)
  | total
  | playhead
  | reset
  | setSong (text : String)

namespace SongStream

def respond (stream : SongStream) : StreamRequest → SongStream × Reply
  | .render room => ((stream.next room).1, .samples (stream.next room).2)
  | .total => (stream, .count stream.total)
  | .playhead =>
      (stream, .step (match stream.playhead with
        | some step => step
        | none => -1))
  | .reset => (stream.reset, .nothing)
  | .setSong text => (stream.setSong (Song.ofText text), .flag true)

structure Session (rate : UInt32) (sine : Bool) (stream : SongStream) : Prop where
  synth : stream.synth = .ofRate rate
  voicing : stream.voicing = stream.song.voicing sine
  steps : stream.song.pattern.steps = 16

theorem start_session (rate : UInt32) (text : String) (sine : Bool) :
    (start rate (Song.ofText text) sine).Session rate sine where
  synth := rfl
  voicing := rfl
  steps := (Song.ofChars_canonical text.toList).steps

theorem Session.respond {stream : SongStream} {rate : UInt32} {sine : Bool}
    (h : stream.Session rate sine) (request : StreamRequest) :
    (stream.respond request).1.Session rate sine := by
  cases request with
  | render _ | total | playhead | reset => exact ⟨h.synth, h.voicing, h.steps⟩
  | setSong text =>
      refine ⟨h.synth, ?_, (Song.ofChars_canonical text.toList).steps⟩
      simp only [SongStream.respond, setSong, h.voicing, Song.voicing]

theorem Session.playhead_le {stream : SongStream} {rate : UInt32} {sine : Bool}
    (h : stream.Session rate sine) {step : Nat} (hstep : stream.playhead = some step) :
    step ≤ 15 := by
  unfold playhead at hstep
  split at hstep
  · rw [h.steps] at hstep
    injection hstep
    omega
  · cases hstep

theorem Session.reset {stream : SongStream} {rate : UInt32} {sine : Bool}
    (h : stream.Session rate sine) : stream.reset = start rate stream.song sine := by
  simp only [SongStream.reset, start, h.synth, h.voicing]

/-- Buffers of any sizes get all that is to come, and the next one gets nothing. -/
theorem drain (stream : SongStream) (rooms : Nat → Nat) (hrooms : ∀ i, 0 < rooms i) :
    ∃ pieces : List (Array Int16),
      (PulseTracker.answers respond stream
          ((List.range (pieces.length + 1)).map fun i => .render (rooms i))).2 =
        pieces.map .samples ++ [.samples #[]] ∧
      (∀ piece ∈ pieces, piece ≠ #[]) ∧
      pieces.flatMap Array.toList = stream.upcoming := by
  induction hleft : stream.upcoming.length using Nat.strongRecOn generalizing stream rooms with
  | ind left ih =>
      obtain ⟨hnext, hrest⟩ := stream.next_upcoming (rooms 0)
      by_cases hnone : stream.upcoming = []
      · rw [hnone, List.take_nil, Array.toList_eq_nil_iff] at hnext
        refine ⟨[], ?_, by simp, by rw [hnone]; rfl⟩
        simp [PulseTracker.answers, respond, hnext]
      · have hpos : 0 < stream.upcoming.length := List.length_pos_iff.mpr hnone
        have hroom := hrooms 0
        have hless : (stream.next (rooms 0)).1.upcoming.length < left := by
          rw [hrest, List.length_drop]
          omega
        obtain ⟨pieces, hanswers, hfull, hall⟩ :=
          ih _ hless (stream.next (rooms 0)).1 (fun i => rooms (i + 1)) (fun i => hrooms _) rfl
        refine ⟨(stream.next (rooms 0)).2 :: pieces, ?_, ?_, ?_⟩
        · rw [List.length_cons, List.range_succ_eq_map, List.map_cons, List.map_map]
          simp only [PulseTracker.answers, respond, List.map_cons, List.cons_append]
          exact congrArg _ hanswers
        · intro piece hpiece
          rcases List.mem_cons.mp hpiece with rfl | hpiece
          · intro hempty
            rw [hempty] at hnext
            have hlength := congrArg List.length hnext
            simp only [List.length_take, List.length_nil] at hlength
            omega
          · exact hfull piece hpiece
        · rw [List.flatMap_cons, hall, hnext, hrest, List.take_append_drop]

end SongStream

/-! ## Calls of a host -/

namespace Embedding

/-- A call on a handle; `none` is a null buffer or a null string. -/
inductive HostCall where
  | render (room : Option Nat)
  | total
  | playhead
  | reset
  | setSong (bytes : Option (List UInt8))

def respond (handle : Handle) : HostCall → Handle × Reply
  | .render room => ((render handle room).1, .samples (render handle room).2)
  | .total => (handle, .count (total handle))
  | .playhead => (handle, .step (playhead handle))
  | .reset => (reset handle, .nothing)
  | .setSong bytes => ((setSong handle bytes).2, .flag (setSong handle bytes).1)

/-- The bytes up to the first zero are the text. -/
def Spells (bytes : List UInt8) (text : String) : Prop :=
  text.toUTF8 = ⟨(beforeZero bytes).toArray⟩

instance (bytes : List UInt8) (text : String) : Decidable (Spells bytes text) :=
  inferInstanceAs (Decidable (text.toUTF8 = ⟨(beforeZero bytes).toArray⟩))

inductive Understood : HostCall → StreamRequest → Prop where
  | render {room} : 0 < room → Understood (.render (some room)) (.render room)
  | total : Understood .total .total
  | playhead : Understood .playhead .playhead
  | reset : Understood .reset .reset
  | setSong {bytes text} : Spells bytes text → Understood (.setSong (some bytes)) (.setSong text)

inductive Refused : HostCall → Reply → Prop where
  | nullBuffer : Refused (.render none) (.samples #[])
  | noRoom : Refused (.render (some 0)) (.samples #[])
  | nullText : Refused (.setSong none) (.flag false)
  | noText {bytes} : (∀ text, ¬Spells bytes text) → Refused (.setSong (some bytes)) (.flag false)

theorem understood_or_refused (call : HostCall) :
    (∃ request, Understood call request) ∨ ∃ reply, Refused call reply := by
  rcases call with (_ | _ | room) | _ | _ | _ | (_ | bytes)
  · exact Or.inr ⟨_, .nullBuffer⟩
  · exact Or.inr ⟨_, .noRoom⟩
  · exact Or.inl ⟨_, .render (Nat.succ_pos room)⟩
  · exact Or.inl ⟨_, .total⟩
  · exact Or.inl ⟨_, .playhead⟩
  · exact Or.inl ⟨_, .reset⟩
  · exact Or.inr ⟨_, .nullText⟩
  · by_cases htext : ∃ text, Spells bytes text
    · obtain ⟨text, htext⟩ := htext
      exact Or.inl ⟨_, .setSong htext⟩
    · exact Or.inr ⟨_, .noText (not_exists.mp htext)⟩

theorem songOfBytes?_of_spells {bytes : List UInt8} {text : String} (h : Spells bytes text) :
    songOfBytes? (some bytes) = some (Song.ofText text) := by
  simp only [songOfBytes?, fromUTF8?_eq_some_iff.mpr h, Option.map_some]

theorem songOfBytes?_of_not_spells {bytes : List UInt8} (h : ∀ text, ¬Spells bytes text) :
    songOfBytes? (some bytes) = none := by
  rw [songOfBytes?, Option.map_eq_none_iff, Option.eq_none_iff_forall_ne_some]
  intro text htext
  exact h text (fromUTF8?_eq_some_iff.mp htext)

theorem create_of_spells (rate : UInt32) {bytes : List UInt8} {text : String} (sine : Bool)
    (h : Spells bytes text) :
    create rate (some bytes) sine = some (SongStream.start rate (Song.ofText text) sine) := by
  rw [create, songOfBytes?_of_spells h, Option.map_some]

theorem respond_of_refused {call : HostCall} {reply : Reply} (h : Refused call reply)
    (handle : Handle) : respond handle call = (handle, reply) := by
  cases h with
  | nullBuffer | noRoom | nullText =>
      cases handle with
      | none | some _ => rfl
  | noText hnone =>
      have hsong := songOfBytes?_of_not_spells hnone
      cases handle with
      | none | some _ => simp only [respond, setSong, hsong]

theorem respond_of_understood {stream : SongStream} {rate : UInt32} {sine : Bool}
    (hstream : stream.Session rate sine) {call : HostCall} {request : StreamRequest}
    (h : Understood call request) :
    respond (some stream) call =
      (some (stream.respond request).1, (stream.respond request).2) := by
  cases h with
  | @render room hroom =>
      obtain ⟨less, rfl⟩ := Nat.exists_eq_succ_of_ne_zero (Nat.ne_of_gt hroom)
      rfl
  | total | reset => rfl
  | playhead =>
      simp only [respond, playhead, SongStream.respond, Option.bind_some]
      cases hstep : stream.playhead with
      | none => rfl
      | some step =>
          have hle := hstream.playhead_le hstep
          have hmax : step ≤ stepMax := Nat.le_trans hle (by decide)
          simp only [if_pos hmax]
  | setSong htext =>
      simp only [respond, setSong, songOfBytes?_of_spells htext, SongStream.respond]

theorem answers_of_understood {stream : SongStream} {rate : UInt32} {sine : Bool}
    (hstream : stream.Session rate sine) {calls : List HostCall} {requests : List StreamRequest}
    (h : List.Forall₂ Understood calls requests) :
    answers respond (some stream) calls =
      (some (answers SongStream.respond stream requests).1,
        (answers SongStream.respond stream requests).2) := by
  induction h generalizing stream with
  | nil => rfl
  | cons hcall _ ih =>
      simp only [answers, respond_of_understood hstream hcall, ih (hstream.respond _)]

theorem answers_session {stream : SongStream} {rate : UInt32} {sine : Bool}
    (hstream : stream.Session rate sine) (calls : List HostCall) :
    ∃ last : SongStream, (answers respond (some stream) calls).1 = some last ∧
      last.Session rate sine := by
  induction calls generalizing stream with
  | nil => exact ⟨stream, rfl, hstream⟩
  | cons call calls ih =>
      simp only [answers]
      rcases understood_or_refused call with ⟨request, hcall⟩ | ⟨reply, hcall⟩
      · rw [respond_of_understood hstream hcall]
        exact ih (hstream.respond request)
      · rw [respond_of_refused hcall]
        exact ih hstream

theorem answers_of_refused (handle : Handle) (before after : List HostCall) {call : HostCall}
    {reply : Reply} (h : Refused call reply) :
    ∃ (first second : List Reply) (last : Handle), first.length = before.length ∧
      answers respond handle (before ++ after) = (last, first ++ second) ∧
      answers respond handle (before ++ call :: after) = (last, first ++ reply :: second) := by
  refine ⟨_, _, _, answers_length respond handle before, answers_append .., ?_⟩
  rw [answers_append]
  simp only [answers, respond_of_refused h]

theorem answers_of_start {stream : SongStream} {rate : UInt32} {sine : Bool}
    (h : stream.Session rate sine) (hstart : stream = SongStream.start rate stream.song sine)
    (rooms : Nat → Nat) (hrooms : ∀ i, 0 < rooms i) :
    ∃ pieces : List (Array Int16),
      (answers respond (some stream)
          ((List.range (pieces.length + 1)).map fun i => .render (some (rooms i)))).2 =
        pieces.map .samples ++ [.samples #[]] ∧
      (∀ piece ∈ pieces, piece ≠ #[]) ∧
      (pieces.map Array.size).sum = total (some stream) ∧
      pieces.flatMap Array.toList =
        ((Synth.ofRate rate).render stream.song.pattern stream.song.tempo
          (stream.song.voicing sine)).toList := by
  obtain ⟨pieces, hanswers, hfull, hall⟩ := stream.drain rooms hrooms
  have hupcoming : stream.upcoming =
      ((Synth.ofRate rate).render stream.song.pattern stream.song.tempo
        (stream.song.voicing sine)).toList := by
    rw [hstart]
    exact SongStream.start_upcoming rate stream.song sine
  rw [hupcoming] at hall
  refine ⟨pieces, ?_, hfull, ?_, hall⟩
  · have hcalls : List.Forall₂ Understood
        ((List.range (pieces.length + 1)).map fun i => .render (some (rooms i)))
        ((List.range (pieces.length + 1)).map fun i => .render (rooms i)) := by
      rw [List.forall₂_map_left_iff, List.forall₂_map_right_iff, List.forall₂_same]
      exact fun i _ => .render (hrooms i)
    rw [answers_of_understood h hcalls]
    exact hanswers
  · have hlength := congrArg List.length hall
    rw [List.length_flatMap, Array.length_toList, Synth.render_size] at hlength
    simp only [Array.length_toList] at hlength
    rw [total, SongStream.total, h.synth,
      (Synth.ofRate rate).patternLength_of_sixteen _ h.steps]
    exact hlength

/--
What a host asks of a handle is answered as the stream itself answers it; what is refused can
come anywhere without a trace.  After the creation or a reset the song is heard whole: the buffers
that get anything, up to the first that gets nothing, get the samples of the whole render, as many
as the total says.
-/
theorem host_follows_stream (rate : UInt32) (sine : Bool) {bytes : List UInt8} {text : String}
    (htext : Spells bytes text) :
    let handle := create rate (some bytes) sine
    let stream := SongStream.start rate (Song.ofText text) sine
    (∀ calls requests, List.Forall₂ Understood calls requests →
      answers respond handle calls =
        (some (answers SongStream.respond stream requests).1,
          (answers SongStream.respond stream requests).2)) ∧
    (∀ before call reply after, Refused call reply →
      ∃ (first second : List Reply) (last : Handle), first.length = before.length ∧
        answers respond handle (before ++ after) = (last, first ++ second) ∧
        answers respond handle (before ++ call :: after) = (last, first ++ reply :: second)) ∧
    (∀ call, (∃ request, Understood call request) ∨ ∃ reply, Refused call reply) ∧
    ∀ fresh, (fresh = handle ∨ ∃ calls, fresh = (answers respond handle (calls ++ [.reset])).1) →
      ∃ current : SongStream, fresh = some current ∧
        ∀ rooms : Nat → Nat, (∀ i, 0 < rooms i) →
          ∃ pieces : List (Array Int16),
            (answers respond fresh
                ((List.range (pieces.length + 1)).map fun i => .render (some (rooms i)))).2 =
              pieces.map .samples ++ [.samples #[]] ∧
            (∀ piece ∈ pieces, piece ≠ #[]) ∧
            (pieces.map Array.size).sum = total fresh ∧
            pieces.flatMap Array.toList =
              ((Synth.ofRate rate).render current.song.pattern current.song.tempo
                (current.song.voicing sine)).toList := by
  intro handle stream
  have hhandle : handle = some stream := create_of_spells rate sine htext
  have hstream : stream.Session rate sine := SongStream.start_session rate text sine
  refine ⟨?_, ?_, understood_or_refused, ?_⟩
  · intro calls requests hcalls
    rw [hhandle]
    exact answers_of_understood hstream hcalls
  · intro before call reply after hcall
    exact answers_of_refused handle before after hcall
  · rintro fresh (rfl | ⟨calls, rfl⟩)
    · exact ⟨stream, hhandle, hhandle ▸ answers_of_start hstream rfl⟩
    · obtain ⟨last, hlast, hsession⟩ := answers_session hstream calls
      have hfresh : (answers respond handle (calls ++ [.reset])).1 = some last.reset := by
        rw [answers_append, hhandle]
        simp only [answers, respond, reset, hlast, Option.map_some]
      rw [hfresh]
      exact ⟨last.reset, rfl, answers_of_start (hsession.respond .reset) hsession.reset⟩

theorem host_follows_stream_past_bad_text :
    let bytes : List UInt8 := "tempo=60;".toUTF8.data.toList ++ [0, 0xFF]
    let handle := create 8000 (some bytes) true
    let stream := SongStream.start 8000 (Song.ofText "tempo=60;") true
    Spells bytes "tempo=60;" ∧
      Refused (.setSong (some [0xFF, 0])) (.flag false) ∧
      answers respond handle [.playhead, .render (some 3)] =
        (some (stream.next 3).1, [.step (-1), .samples (stream.next 3).2]) ∧
      answers respond handle [.playhead, .setSong (some [0xFF, 0]), .render (some 3)] =
        (some (stream.next 3).1, [.step (-1), .flag false, .samples (stream.next 3).2]) := by
  intro bytes handle stream
  have htext : Spells bytes "tempo=60;" := by decide
  have hrefused : Refused (.setSong (some [0xFF, 0])) (.flag false) := by
    refine .noText fun text hspells => ?_
    have hsome := fromUTF8?_eq_some_iff.mpr hspells
    have hnone : String.fromUTF8? ⟨(beforeZero [0xFF, 0]).toArray⟩ = none := by decide
    rw [hnone] at hsome
    cases hsome
  obtain ⟨hunderstood, hany, -, -⟩ := host_follows_stream 8000 true htext
  have hplain := hunderstood [.playhead, .render (some 3)] [.playhead, .render 3]
    (.cons .playhead (.cons (.render (by decide)) .nil))
  obtain ⟨first, second, last, hlength, hwithout, hwith⟩ :=
    hany [.playhead] _ _ [.render (some 3)] hrefused
  obtain ⟨reply, rfl⟩ := List.length_eq_one_iff.mp hlength
  obtain ⟨rfl, hreplies⟩ := Prod.mk.inj (hwithout.symm.trans hplain)
  obtain ⟨rfl, rfl⟩ := List.cons.inj hreplies
  exact ⟨htext, hrefused, hplain, hwith⟩

end Embedding

end PulseTracker
