import Mathlib.Data.List.TakeWhile
import PulseTracker.Proofs.Text.Bytes
import PulseTracker.Proofs.Text.Split
import PulseTracker.Song.Text

/-!
# Numbers in a song text

Decimal digits read as the number they stand for, cut at `magnitudeMax`.  So a
number that was written is read back unless it is larger than that.
-/

namespace PulseTracker.Song

open PulseTracker.Text

theorem isDigit_toNat {c : Char} (h : c.isDigit) : 48 ≤ c.toNat ∧ c.toNat ≤ 57 :=
  (isDigit_iff c).mp h

theorem isBlank_of_isDigit {c : Char} (h : c.isDigit) : isBlank c = false := by
  obtain ⟨hlow, hhigh⟩ := isDigit_toNat h
  simp only [isBlank, blankRanges, List.any_cons, List.any_nil, Bool.or_false,
    Bool.or_eq_false_iff, Bool.and_eq_false_iff, decide_eq_false_iff_not]
  omega

theorem magnitude_foldl (digits : List Char) (value : Nat) :
    digits.foldl (fun value digit => min magnitudeMax (value * 10 + (digit.toNat - 48)))
        (min magnitudeMax value) =
      min magnitudeMax (Nat.ofDigitChars 10 digits value) := by
  induction digits generalizing value with
  | nil => rfl
  | cons digit digits ih =>
      have hcut : min magnitudeMax (min magnitudeMax value * 10 + (digit.toNat - 48)) =
          min magnitudeMax (10 * value + (digit.toNat - 48)) := by omega
      rw [List.foldl_cons, hcut, ih]
      rfl

/-- The cut may be made once at the end instead of after every digit. -/
theorem magnitude_eq (digits : List Char) :
    magnitude digits = min magnitudeMax (Nat.ofDigitChars 10 digits 0) := by
  have h := magnitude_foldl digits 0
  rwa [Nat.min_zero] at h

theorem takeSign_digit {c : Char} (h : c.isDigit) (rest : List Char) :
    takeSign (c :: rest) = (false, c :: rest) := by
  obtain ⟨hlow, -⟩ := isDigit_toNat h
  unfold takeSign
  split
  all_goals simp_all

theorem readInt_digits {digits : List Char} (hsome : digits ≠ [])
    (hdigits : ∀ c ∈ digits, c.isDigit) :
    readInt digits = some (magnitude digits : Int) := by
  cases digits with
  | nil => exact absurd rfl hsome
  | cons c rest =>
      have hsolid : Solid (c :: rest) := fun d hd => isBlank_of_isDigit (hdigits d hd)
      have hall := List.takeWhile_eq_self_iff.mpr hdigits
      rw [readInt, trimStart_solid hsolid, takeSign_digit (hdigits c (by simp))]
      simp only [hall, List.isEmpty_cons, Bool.false_eq_true, if_false]

theorem toDigits_isDigit (n : Nat) : ∀ c ∈ Nat.toDigits 10 n, c.isDigit := fun _ hc =>
  Nat.isDigit_of_mem_toDigits (by decide) (by decide) hc

theorem readInt_toDigits (n : Nat) :
    readInt (Nat.toDigits 10 n) = some ((min magnitudeMax n : Nat) : Int) := by
  rw [readInt_digits Nat.toDigits_ne_nil (toDigits_isDigit n), magnitude_eq,
    Nat.ofDigitChars_ten_toDigits]

theorem readInt_toDigits_of_le {n : Nat} (h : n ≤ magnitudeMax) :
    readInt (Nat.toDigits 10 n) = some (n : Int) := by
  rw [readInt_toDigits, Nat.min_eq_right h]

theorem readInt_rest : readInt ['-', '1'] = some (-1) := by decide

end PulseTracker.Song
