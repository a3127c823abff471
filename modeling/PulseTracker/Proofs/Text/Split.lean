import Mathlib.Data.List.TakeWhile
import PulseTracker.Text.Split

/-!
# Splitting what was joined

A piece without the separator is split off as it was, whatever stands behind it.
A text without blanks is left alone by trimming, and blanks around a text make no
difference to it.
-/

namespace PulseTracker.Text

def Solid (text : List Char) : Prop := ∀ c ∈ text, isBlank c = false

theorem dropWhile_isBlank {text : List Char} (h : Solid text) :
    text.dropWhile isBlank = text := by
  cases text with
  | nil => rfl
  | cons c rest => simp [h c (by simp)]

theorem trimStart_solid {text : List Char} (h : Solid text) : trimStart text = text :=
  dropWhile_isBlank h

theorem trim_solid {text : List Char} (h : Solid text) : trim text = text := by
  have hreverse : Solid text.reverse := fun c hc => h c (List.mem_reverse.mp hc)
  rw [trim, trimStart_solid h, trimEnd, dropWhile_isBlank hreverse, List.reverse_reverse]

def Blank (text : List Char) : Prop := ∀ c ∈ text, isBlank c = true

instance (text : List Char) : Decidable (Blank text) :=
  decidable_of_iff (text.all isBlank = true) List.all_eq_true

theorem Blank.not_mem {text : List Char} (h : Blank text) {c : Char} (hc : isBlank c = false) :
    c ∉ text := by
  intro hmem
  rw [h c hmem] at hc
  cases hc

theorem trimEnd_append_blank {after : List Char} (h : Blank after) (text : List Char) :
    trimEnd (text ++ after) = trimEnd text := by
  have hreverse : ∀ c ∈ after.reverse, isBlank c = true := fun c hc =>
    h c (List.mem_reverse.mp hc)
  rw [trimEnd, trimEnd, List.reverse_append, List.dropWhile_append_of_pos hreverse]

theorem trim_blanks {before after : List Char} (hbefore : Blank before) (hafter : Blank after)
    (text : List Char) : trim (before ++ text ++ after) = trim text := by
  have hstart : trimStart (before ++ text ++ after) = trimStart (text ++ after) := by
    rw [trimStart, List.append_assoc, List.dropWhile_append_of_pos hbefore]
    rfl
  rw [trim, trim, hstart, trimStart, List.dropWhile_append]
  split
  · -- the text itself is blank, so nothing is left of either
    rename_i hempty
    rw [trimStart, List.isEmpty_iff.mp hempty, List.dropWhile_eq_nil_iff.mpr hafter]
  · exact trimEnd_append_blank hafter _

theorem pieces_cons_separator (separator : Char) (rest : List Char) :
    pieces separator (separator :: rest) = [] :: pieces separator rest := by
  simp [pieces, piecesAt]

theorem pieces_cons_of_ne {separator c : Char} (h : c ≠ separator) (rest : List Char) :
    pieces separator (c :: rest) =
      (c :: (piecesAt separator rest).1) :: (piecesAt separator rest).2 := by
  simp [pieces, piecesAt, h]

theorem pieces_append_separator {separator : Char} {piece : List Char}
    (h : separator ∉ piece) (rest : List Char) :
    pieces separator (piece ++ separator :: rest) = piece :: pieces separator rest := by
  induction piece with
  | nil => exact pieces_cons_separator separator rest
  | cons c piece ih =>
      simp only [List.mem_cons, not_or] at h
      have hrest := ih h.2
      simp only [pieces, List.cons.injEq] at hrest
      rw [List.cons_append, pieces_cons_of_ne (Ne.symm h.1), hrest.1, hrest.2]
      rfl

theorem pieces_of_not_mem {separator : Char} {piece : List Char} (h : separator ∉ piece) :
    pieces separator piece = [piece] := by
  induction piece with
  | nil => rfl
  | cons c piece ih =>
      simp only [List.mem_cons, not_or] at h
      have hrest := ih h.2
      simp only [pieces, List.cons.injEq] at hrest
      rw [pieces_cons_of_ne (Ne.symm h.1), hrest.1, hrest.2]

theorem pieces_intercalate {separator : Char} {parts : List (List Char)} (hparts : parts ≠ [])
    (h : ∀ part ∈ parts, separator ∉ part) :
    pieces separator ([separator].intercalate parts) = parts := by
  induction parts with
  | nil => exact absurd rfl hparts
  | cons part rest ih =>
      have hpart := h part (by simp)
      cases rest with
      | nil => simpa using pieces_of_not_mem hpart
      | cons next rest =>
          have hrest := ih (by simp) fun other hother => h other (List.mem_cons_of_mem _ hother)
          rw [List.intercalate_cons_cons, List.append_assoc, List.singleton_append,
            pieces_append_separator hpart, hrest]

theorem cutAt_of_not_mem {separator : Char} {text : List Char} (h : separator ∉ text) :
    cutAt separator text = none := by
  induction text with
  | nil => rfl
  | cons c rest ih =>
      simp only [List.mem_cons, not_or] at h
      simp [cutAt, Ne.symm h.1, ih h.2]

theorem cutAt_append_separator {separator : Char} {before : List Char}
    (h : separator ∉ before) (after : List Char) :
    cutAt separator (before ++ separator :: after) = some (before, after) := by
  induction before with
  | nil => simp [cutAt]
  | cons c before ih =>
      simp only [List.mem_cons, not_or] at h
      simp [cutAt, Ne.symm h.1, ih h.2]

end PulseTracker.Text
