import Mathlib.Algebra.GroupWithZero.Nat
import PulseTracker.Audio.Source

/-!
# Filling buffers

A source that fills every buffer as far as its samples go gives the same samples whatever buffers
it is lent: one after the other they get what a single one would.
-/

namespace PulseTracker

theorem drop_min_room (buffer : Vector Int16 room) (count : Nat) :
    buffer.toList.drop (min room count) = buffer.toList.drop count := by
  have hdrop : buffer.toList.drop count = buffer.toList.drop (min count buffer.toList.length) :=
    List.drop_eq_drop_min
  rw [hdrop, Vector.length_toList, Nat.min_comm]

theorem overwrite_toList {samples : Array Int16} (buffer : Vector Int16 n) (h : samples.size ≤ n) :
    (overwrite samples buffer).toList = samples.toList ++ buffer.toList.drop samples.size := by
  have hfront : samples.extract 0 n = samples := Array.extract_eq_self_of_le h
  have hback : (buffer.toArray.extract samples.size n).toList =
      buffer.toList.drop samples.size := by
    rw [Array.toList_extract, List.extract_eq_take_drop, ← Vector.toList_toArray]
    exact List.take_of_length_le (by simp)
  simp only [overwrite, Vector.toList_mk, hfront, Nat.min_eq_left h, Array.toList_append, hback]

theorem overwrite_take {samples : Array Int16} (buffer : Vector Int16 n)
    (h : samples.size ≤ n) : (overwrite samples buffer).toList.take samples.size =
      samples.toList := by
  rw [overwrite_toList buffer h, ← Array.length_toList, List.take_left]

namespace Source

structure FillsUp (source : Source σ) (left : σ → List Int16) : Prop where
  claimed : ∀ {room} (buffer : Vector Int16 room) s,
    (source.fill buffer s).claimed = min room (left s).length
  buffer : ∀ {room} (buffer : Vector Int16 room) s,
    (source.fill buffer s).buffer.toList =
      (left s).take room ++ buffer.toList.drop (left s).length
  rest : ∀ {room} (buffer : Vector Int16 room) s,
    left (source.fill buffer s).source = (left s).drop room

theorem fillsUp_of_next {source : Source σ} {left : σ → List Int16}
    (next : σ → Nat → σ × Array Int16)
    (hfill : ∀ {room} (buffer : Vector Int16 room) s, source.fill buffer s =
      { claimed := (next s room).2.size
        buffer := overwrite (next s room).2 buffer
        source := (next s room).1 })
    (hsamples : ∀ s room, (next s room).2.toList = (left s).take room)
    (hrest : ∀ s room, left (next s room).1 = (left s).drop room) : source.FillsUp left := by
  have hsize (s : σ) (room : Nat) : (next s room).2.size = min room (left s).length := by
    rw [← Array.length_toList, hsamples, List.length_take]
  constructor
  case claimed =>
    intro room buffer s
    rw [hfill, hsize]
  case buffer =>
    intro room buffer s
    have hroom : (next s room).2.size ≤ room := hsize s room ▸ Nat.min_le_left ..
    rw [hfill, overwrite_toList buffer hroom, hsamples, hsize, drop_min_room]
  case rest =>
    intro room buffer s
    rw [hfill, hrest]

theorem ofArray_fillsUp (samples : Array Int16) :
    (ofArray samples).FillsUp fun position => samples.toList.drop position := by
  have htaken (position room : Nat) : (samples.extract position (position + room)).toList =
      (samples.toList.drop position).take room := by
    rw [Array.toList_extract, List.extract_eq_take_drop, Nat.add_sub_cancel_left]
  refine fillsUp_of_next
    (fun position room =>
      let taken := samples.extract position (position + room)
      (position + taken.size, taken))
    (fun _ _ => rfl) htaken fun position room => ?_
  rw [← List.drop_drop, ← Array.length_toList, htaken, List.length_take, ← List.drop_eq_drop_min]

def fillAll (source : Source σ) : List (Array Int16) → σ → List Int16 × σ
  | [], s => ([], s)
  | buffer :: rest, s =>
      let filled := source.fill (⟨buffer, rfl⟩ : Vector Int16 buffer.size) s
      let later := fillAll source rest filled.source
      (filled.buffer.toList.take filled.claimed ++ later.1, later.2)

namespace FillsUp

variable {source : Source σ} {left : σ → List Int16} (h : source.FillsUp left)
include h

theorem take_claimed {room : Nat} (buffer : Vector Int16 room) (s : σ) :
    (source.fill buffer s).buffer.toList.take (source.fill buffer s).claimed =
      (left s).take room := by
  have hsize : (source.fill buffer s).claimed = ((left s).take room).length := by
    rw [h.claimed, List.length_take]
  rw [h.buffer, hsize, List.take_left]

theorem drop_claimed {room : Nat} (buffer : Vector Int16 room) (s : σ) :
    (source.fill buffer s).buffer.toList.drop (source.fill buffer s).claimed =
      buffer.toList.drop (source.fill buffer s).claimed := by
  have hsize : (source.fill buffer s).claimed = ((left s).take room).length := by
    rw [h.claimed, List.length_take]
  rw [h.buffer, hsize, List.drop_left, List.length_take, drop_min_room]

theorem fillAll_eq (buffers : List (Array Int16)) (s : σ) :
    (source.fillAll buffers s).1 = (left s).take (buffers.map Array.size).sum ∧
      left (source.fillAll buffers s).2 = (left s).drop (buffers.map Array.size).sum := by
  induction buffers generalizing s with
  | nil => exact ⟨rfl, rfl⟩
  | cons buffer rest ih =>
      simp only [fillAll, List.map_cons, List.sum_cons, h.take_claimed, ih, h.rest]
      exact ⟨List.take_add.symm, List.drop_drop⟩

end FillsUp

end Source

end PulseTracker
