import PulseTracker.Text.Split

/-!
# Texts as bytes

A text is encoded character by character.  An ASCII character is one byte of its own code, and no
byte of another character is one of these.  So a search for ASCII bytes ends where one for the
characters does, and cutting the bytes there cuts no character in two.
-/

namespace PulseTracker

theorem fromUTF8?_toUTF8 (text : String) : String.fromUTF8? text.toUTF8 = some text := by
  rw [String.toUTF8_eq_toByteArray, String.fromUTF8?, dif_pos text.isValidUTF8]
  rfl

theorem fromUTF8?_eq_some_iff {bytes : ByteArray} {text : String} :
    String.fromUTF8? bytes = some text ↔ text.toUTF8 = bytes := by
  constructor
  · intro h
    rw [String.fromUTF8?] at h
    split at h
    · injection h with h
      subst h
      rfl
    · cases h
  · rintro rfl
    exact fromUTF8?_toUTF8 text

namespace Text

def utf8 (text : List Char) : List UInt8 := text.flatMap String.utf8EncodeChar

/-- Bytes cut at an offset, which has to be their end or the first byte of a character. -/
def cutAtByte? (offset : Nat) (bytes : List UInt8) : Option (List UInt8 × List UInt8) :=
  match bytes.drop offset with
  | [] => if offset = bytes.length then some (bytes, []) else none
  | first :: rest =>
      if first.IsUTF8FirstByte then some (bytes.take offset, first :: rest) else none

theorem utf8_append (before after : List Char) :
    utf8 (before ++ after) = utf8 before ++ utf8 after := List.flatMap_append

theorem utf8_eq_nil_iff {text : List Char} : utf8 text = [] ↔ text = [] := by
  cases text with
  | nil => simp [utf8]
  | cons c text => simp [utf8]

/-! ## The first byte of a character -/

theorem utf8EncodeChar_of_ascii {c : Char} (h : c.toNat < 128) :
    String.utf8EncodeChar c = [c.toUInt8] := by
  apply String.utf8EncodeChar_eq_singleton
  rw [Char.utf8Size_eq_one_iff, UInt32.le_iff_toNat_le]
  exact Nat.le_of_lt_succ h

theorem toNat_toUInt8 {c : Char} (h : c.toNat < 128) : c.toUInt8.toNat = c.toNat :=
  Nat.mod_eq_of_lt (show c.toNat < 256 by omega)

theorem le_or_toNat (a : UInt8) {b : UInt8} (h : 128 ≤ b.toNat) : 128 ≤ (a ||| b).toNat := by
  rw [UInt8.toNat_or]
  exact Nat.le_trans h Nat.right_le_or

theorem utf8EncodeChar_above_ascii {c : Char} (h : 128 ≤ c.toNat) :
    ∃ first rest, String.utf8EncodeChar c = first :: rest ∧ 128 ≤ first.toNat := by
  rcases c.utf8Size_eq with hsize | hsize | hsize | hsize
  · rw [Char.utf8Size_eq_one_iff, UInt32.le_iff_toNat_le] at hsize
    change c.toNat ≤ 127 at hsize
    omega
  · exact ⟨_, _, String.utf8EncodeChar_eq_cons_cons hsize, le_or_toNat _ (by decide)⟩
  · exact ⟨_, _, String.utf8EncodeChar_eq_cons_cons_cons hsize, le_or_toNat _ (by decide)⟩
  · exact ⟨_, _, String.utf8EncodeChar_eq_cons_cons_cons_cons hsize, le_or_toNat _ (by decide)⟩

theorem utf8_firstByte {c : Char} {text : List Char} {first : UInt8} {rest : List UInt8}
    (h : utf8 (c :: text) = first :: rest) : first.IsUTF8FirstByte := by
  have hfirst := @UInt8.isUTF8FirstByte_getElem_zero_utf8EncodeChar c
  cases hbytes : String.utf8EncodeChar c with
  | nil => exact absurd hbytes String.utf8EncodeChar_ne_nil
  | cons head tail =>
      rw [utf8, List.flatMap_cons, hbytes, List.cons_append, List.cons.injEq] at h
      simp only [hbytes, List.getElem_cons_zero, h.1] at hfirst
      exact hfirst

theorem cutAtByte?_utf8 (before after : List Char) :
    cutAtByte? (utf8 before).length (utf8 (before ++ after)) = some (utf8 before, utf8 after) := by
  rw [cutAtByte?, utf8_append, List.drop_left]
  cases after with
  | nil => simp [utf8]
  | cons c after =>
      split
      · rename_i hnil
        simp [utf8] at hnil
      · rename_i first rest hbytes
        rw [if_pos (utf8_firstByte hbytes), List.take_left, hbytes]

/-! ## ASCII bytes -/

theorem isDigit_iff (c : Char) : c.isDigit = true ↔ 48 ≤ c.toNat ∧ c.toNat ≤ 57 := by
  simp [Char.isDigit, UInt32.le_iff_toNat_le]

theorem head?_utf8 {c : Char} (h : c.toNat < 128) (text : List Char) :
    (utf8 text).head? = some c.toUInt8 ↔ text.head? = some c := by
  cases text with
  | nil => simp [utf8]
  | cons d text =>
      rw [utf8, List.flatMap_cons]
      by_cases hd : d.toNat < 128
      · rw [utf8EncodeChar_of_ascii hd, List.singleton_append, List.head?_cons, List.head?_cons,
          Option.some_inj, Option.some_inj, ← UInt8.toNat_inj, toNat_toUInt8 hd, toNat_toUInt8 h,
          Char.toNat_inj]
      · obtain ⟨first, rest, hbytes, hfirst⟩ := utf8EncodeChar_above_ascii (Nat.not_lt.mp hd)
        rw [hbytes, List.cons_append, List.head?_cons, List.head?_cons, Option.some_inj,
          Option.some_inj]
        constructor
        · rintro rfl
          rw [toNat_toUInt8 h] at hfirst
          omega
        · rintro rfl
          exact absurd h hd

def isDigitByte (byte : UInt8) : Bool := 48 ≤ byte && byte ≤ 57

theorem isDigitByte_iff (byte : UInt8) :
    isDigitByte byte = true ↔ 48 ≤ byte.toNat ∧ byte.toNat ≤ 57 := by
  simp only [isDigitByte, Bool.and_eq_true, decide_eq_true_eq, UInt8.le_iff_toNat_le]
  rfl

theorem isDigitByte_toUInt8 {c : Char} (h : c.toNat < 128) : isDigitByte c.toUInt8 = c.isDigit := by
  rw [Bool.eq_iff_iff, isDigitByte_iff, toNat_toUInt8 h, isDigit_iff]

theorem takeWhile_utf8 (text : List Char) :
    (utf8 text).takeWhile isDigitByte = utf8 (text.takeWhile Char.isDigit) := by
  induction text with
  | nil => rfl
  | cons c text ih =>
      rw [utf8, List.flatMap_cons]
      by_cases hc : c.toNat < 128
      · rw [utf8EncodeChar_of_ascii hc, List.singleton_append, List.takeWhile_cons,
          List.takeWhile_cons, isDigitByte_toUInt8 hc]
        split
        · rw [utf8, List.flatMap_cons, utf8EncodeChar_of_ascii hc, List.singleton_append]
          exact congrArg _ ih
        · rfl
      · obtain ⟨first, rest, hbytes, hfirst⟩ := utf8EncodeChar_above_ascii (Nat.not_lt.mp hc)
        have hbyte : isDigitByte first = false := by
          rw [← Bool.not_eq_true, isDigitByte_iff]
          omega
        have hchar : c.isDigit = false := by
          rw [← Bool.not_eq_true, isDigit_iff]
          omega
        rw [hbytes, List.cons_append, List.takeWhile_cons, List.takeWhile_cons, hbyte, hchar]
        rfl

end Text

end PulseTracker
