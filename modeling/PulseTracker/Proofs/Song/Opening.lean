import Mathlib.Algebra.Group.Int.Defs
import Mathlib.Algebra.GroupWithZero.Nat
import PulseTracker.Proofs.Song.Number

/-!
# The number a text opens with

Blanks, a sign or none, digits, and whatever stands behind them: every text can be taken apart like
this, and the digits are the number, cut at `magnitudeMax`.  `readWord?` reads it from bytes and
into a word.  A cut inside a character and a result outside of the words would end it with nothing.
Neither happens.
-/

namespace PulseTracker.Song

open PulseTracker.Text

/-! ## Words -/

def saturatingMul (a b : Int64) : Int64 := .ofIntClamp (a.toInt * b.toInt)

def saturatingAdd (a b : Int64) : Int64 := .ofIntClamp (a.toInt + b.toInt)

def negate? (word : Int64) : Option Int64 :=
  if word = Int64.minValue then none else some (-word)

def digitOfByte? (byte : UInt8) : Option Int64 :=
  if 48 ≤ byte then some (.ofNat (byte - 48).toNat) else none

theorem toInt_ofIntClamp_of_nonneg {value : Int} (h : 0 ≤ value) :
    (Int64.ofIntClamp value).toInt = min (2 ^ 63 - 1) value := by
  have hmin : Int64.minValue.toInt = -2 ^ 63 := Int64.toInt_minValue
  have hmax : Int64.maxValue.toInt = 2 ^ 63 - 1 := Int64.toInt_maxValue
  by_cases hle : value ≤ 2 ^ 63 - 1
  · rw [Int64.toInt_ofIntClamp (by omega) (by omega)]
    omega
  · rw [Int64.ofIntClamp, dif_pos (by omega), dif_neg (by omega), hmax]
    omega

/-- Two cuts, after the product and after the sum, are one cut of what comes out. -/
theorem toInt_saturating {word digit : Int64} {value n : Nat} (hword : word.toInt = value)
    (hdigit : digit.toInt = n) :
    (saturatingAdd (saturatingMul word 10) digit).toInt =
      (min magnitudeMax (value * 10 + n) : Nat) := by
  have hten : (10 : Int64).toInt = 10 := rfl
  have hproduct : (saturatingMul word 10).toInt = min (2 ^ 63 - 1) ((value : Int) * 10) := by
    rw [saturatingMul, hword, hten, toInt_ofIntClamp_of_nonneg (by omega)]
  rw [saturatingAdd, toInt_ofIntClamp_of_nonneg (by omega), hproduct, hdigit]
  simp only [magnitudeMax]
  omega

theorem digitOfByte?_toUInt8 {c : Char} (h : c.isDigit) :
    ∃ digit, digitOfByte? c.toUInt8 = some digit ∧ digit.toInt = (c.toNat - 48 : Nat) := by
  obtain ⟨hlow, hhigh⟩ := isDigit_toNat h
  have hbyte : c.toUInt8.toNat = c.toNat := toNat_toUInt8 (by omega)
  have hle : (48 : UInt8) ≤ c.toUInt8 := by
    rw [UInt8.le_iff_toNat_le, hbyte]
    exact hlow
  refine ⟨_, if_pos hle, ?_⟩
  rw [UInt8.toNat_sub_of_le _ _ hle, hbyte]
  exact Int64.toInt_ofNat_of_lt (by simp; omega)

/-! ## Reading bytes -/

def takeSignByte? (bytes : List UInt8) : Option (Bool × List UInt8) :=
  if bytes.head? = some '-'.toUInt8 then (cutAtByte? 1 bytes).map fun parts => (true, parts.2)
  else if bytes.head? = some '+'.toUInt8 then
    (cutAtByte? 1 bytes).map fun parts => (false, parts.2)
  else some (false, bytes)

def readDigits? : List UInt8 → Int64 → Option Int64
  | [], word => some word
  | byte :: rest, word => do
      let digit ← digitOfByte? byte
      readDigits? rest (saturatingAdd (saturatingMul word 10) digit)

/-- The number a text begins with, as `readInt` reads it, from the bytes behind its blanks. -/
def readWord? (text : List Char) : Option (Option Int64) := do
  let (negative, bytes) ← takeSignByte? (utf8 (trimStart text))
  let count := (bytes.takeWhile isDigitByte).length
  if count = 0 then return none
  let (digits, _) ← cutAtByte? count bytes
  let word ← readDigits? digits 0
  if negative then return some (← negate? word)
  return some word

theorem takeSignByte?_utf8 (text : List Char) :
    takeSignByte? (utf8 text) = some ((takeSign text).1, utf8 (takeSign text).2) := by
  have hminus : '-'.toNat < 128 := by decide
  have hplus : '+'.toNat < 128 := by decide
  unfold takeSignByte?
  simp only [head?_utf8 hminus, head?_utf8 hplus]
  cases text with
  | nil => rfl
  | cons c rest =>
      simp only [List.head?_cons, Option.some_inj]
      split
      · rename_i hc
        subst hc
        have hcut := cutAtByte?_utf8 ['-'] rest
        exact congrArg (Option.map fun parts => (true, parts.2)) hcut
      · split
        · rename_i hc
          subst hc
          have hcut := cutAtByte?_utf8 ['+'] rest
          exact congrArg (Option.map fun parts => (false, parts.2)) hcut
        · rename_i hm hp
          unfold takeSign
          split
          all_goals simp_all

theorem readDigits?_utf8 {digits : List Char} (hdigits : ∀ c ∈ digits, c.isDigit) {word : Int64}
    {value : Nat} (hword : word.toInt = value) :
    ∃ last, readDigits? (utf8 digits) word = some last ∧
      last.toInt = (digits.foldl
        (fun value digit => min magnitudeMax (value * 10 + (digit.toNat - 48))) value : Nat) := by
  induction digits generalizing word value with
  | nil => exact ⟨word, rfl, hword⟩
  | cons c digits ih =>
      rw [List.forall_mem_cons] at hdigits
      obtain ⟨hlow, hhigh⟩ := isDigit_toNat hdigits.1
      obtain ⟨digit, hdigit, hvalue⟩ := digitOfByte?_toUInt8 hdigits.1
      obtain ⟨last, hlast, heq⟩ := ih hdigits.2 (toInt_saturating hword hvalue)
      refine ⟨last, ?_, heq⟩
      rw [utf8, List.flatMap_cons, utf8EncodeChar_of_ascii (by omega), List.singleton_append,
        readDigits?, hdigit]
      exact hlast

theorem negate?_of_nonneg {word : Int64} (h : 0 ≤ word.toInt) :
    ∃ negated, negate? word = some negated ∧ negated.toInt = -word.toInt := by
  have hlt := word.toInt_lt
  have hne : word ≠ Int64.minValue := by
    rintro rfl
    exact absurd h (by decide)
  refine ⟨-word, if_neg hne, ?_⟩
  rw [Int64.toInt_neg, Int.bmod_eq_of_le (by omega) (by omega)]

/-- Bytes and words read the same number as `readInt`, and there always is a result. -/
theorem readWord?_eq (text : List Char) :
    ∃ word? : Option Int64, readWord? text = some word? ∧ word?.map Int64.toInt = readInt text := by
  cases hsign : takeSign (trimStart text) with
  | mk negative rest =>
      have hdigits : ∀ c ∈ rest.takeWhile Char.isDigit, c.isDigit := fun c hc =>
        List.mem_takeWhile_imp hc
      have hcut := cutAtByte?_utf8 (rest.takeWhile Char.isDigit) (rest.dropWhile Char.isDigit)
      rw [List.takeWhile_append_dropWhile] at hcut
      have hempty : (utf8 (rest.takeWhile Char.isDigit)).length = 0 ↔
          (rest.takeWhile Char.isDigit).isEmpty = true := by
        rw [List.length_eq_zero_iff, utf8_eq_nil_iff, List.isEmpty_iff]
      obtain ⟨word, hword, hvalue⟩ :=
        readDigits?_utf8 hdigits (show (0 : Int64).toInt = (0 : Nat) from rfl)
      change word.toInt = (magnitude (rest.takeWhile Char.isDigit) : Nat) at hvalue
      simp only [readWord?, readInt, takeSignByte?_utf8, hsign, takeWhile_utf8, bind, pure, hcut,
        hword, Option.bind_some, hempty]
      split
      · exact ⟨none, rfl, rfl⟩
      · cases negative with
        | false => exact ⟨some word, rfl, congrArg some hvalue⟩
        | true =>
            obtain ⟨negated, hnegated, hminus⟩ := negate?_of_nonneg (show 0 ≤ word.toInt by omega)
            refine ⟨some negated, ?_, ?_⟩
            · rw [if_pos rfl, hnegated, Option.bind_some]
            · rw [Option.map_some, hminus, hvalue, if_pos rfl]

/-! ## The parts of a text -/

def NoneNext (kind : Char → Bool) (text : List Char) : Prop := ∀ c ∈ text.head?, kind c = false

theorem noneNext_iff {kind : Char → Bool} {text : List Char} :
    NoneNext kind text ↔ text.takeWhile kind = [] := by
  cases text with
  | nil => simp [NoneNext]
  | cons c rest => cases h : kind c <;> simp [NoneNext, h]

theorem NoneNext.dropWhile {kind : Char → Bool} {text : List Char} (h : NoneNext kind text) :
    text.dropWhile kind = text := by
  have hsplit := List.takeWhile_append_dropWhile (p := kind) (l := text)
  rwa [noneNext_iff.mp h, List.nil_append] at hsplit

theorem noneNext_dropWhile (kind : Char → Bool) (text : List Char) :
    NoneNext kind (text.dropWhile kind) := by
  have h := List.head?_dropWhile_not kind text
  intro c hc
  rwa [Option.mem_def.mp hc] at h

def isSign (c : Char) : Bool := c = '-' || c = '+'

structure Opening where
  blanks : List Char
  sign : List Char
  digits : List Char
  rest : List Char

namespace Opening

structure Of (opening : Opening) (text : List Char) : Prop where
  text_eq : text = opening.blanks ++ (opening.sign ++ (opening.digits ++ opening.rest))
  blanks : Blank opening.blanks
  blanks_end : NoneNext isBlank (opening.sign ++ (opening.digits ++ opening.rest))
  sign : opening.sign = ['-'] ∨ opening.sign = ['+'] ∨
    opening.sign = [] ∧ NoneNext isSign (opening.digits ++ opening.rest)
  digits : ∀ c ∈ opening.digits, c.isDigit
  digits_end : NoneNext Char.isDigit opening.rest

def value (opening : Opening) : Option Int :=
  let size : Int := min (2 ^ 63 - 1) (Nat.ofDigitChars 10 opening.digits 0)
  if opening.digits = [] then none
  else if opening.sign = ['-'] then some (-size)
  else some size

theorem value_eq_none_iff (opening : Opening) : opening.value = none ↔ opening.digits = [] := by
  simp only [value]
  split
  · simp [*]
  · split <;> simp [*]

variable {opening : Opening} {text : List Char}

theorem Of.trimStart_eq (h : opening.Of text) :
    trimStart text = opening.sign ++ (opening.digits ++ opening.rest) := by
  rw [h.text_eq, trimStart, List.dropWhile_append_of_pos h.blanks, h.blanks_end.dropWhile]

theorem Of.takeSign_eq (h : opening.Of text) :
    takeSign (opening.sign ++ (opening.digits ++ opening.rest)) =
      (decide (opening.sign = ['-']), opening.digits ++ opening.rest) := by
  rcases h.sign with hminus | hplus | ⟨hnone, hnext⟩
  · simp [hminus, takeSign]
  · simp [hplus, takeSign]
  · rw [hnone, List.nil_append]
    cases hbody : opening.digits ++ opening.rest with
    | nil => rfl
    | cons c body =>
        have hsign := hnext c (by rw [hbody]; rfl)
        unfold takeSign
        split
        all_goals simp_all [isSign]

theorem Of.takeWhile_eq (h : opening.Of text) :
    (opening.digits ++ opening.rest).takeWhile Char.isDigit = opening.digits := by
  rw [List.takeWhile_append_of_pos h.digits, noneNext_iff.mp h.digits_end, List.append_nil]

theorem Of.readInt_eq (h : opening.Of text) : readInt text = opening.value := by
  have hsize : (magnitude opening.digits : Int) =
      min (2 ^ 63 - 1) (Nat.ofDigitChars 10 opening.digits 0 : Int) := by
    rw [magnitude_eq, magnitudeMax]
    omega
  simp only [readInt, h.trimStart_eq, h.takeSign_eq, h.takeWhile_eq, value, hsize,
    List.isEmpty_iff, decide_eq_true_eq]

end Opening

theorem exists_sign (text : List Char) :
    ∃ sign after, text = sign ++ after ∧
      (sign = ['-'] ∨ sign = ['+'] ∨ sign = [] ∧ NoneNext isSign after) := by
  cases text with
  | nil => exact ⟨[], [], rfl, Or.inr (Or.inr ⟨rfl, noneNext_iff.mpr rfl⟩)⟩
  | cons c rest =>
      by_cases hminus : c = '-'
      · exact ⟨['-'], rest, hminus ▸ rfl, Or.inl rfl⟩
      · by_cases hplus : c = '+'
        · exact ⟨['+'], rest, hplus ▸ rfl, Or.inr (Or.inl rfl)⟩
        · refine ⟨[], c :: rest, rfl, Or.inr (Or.inr ⟨rfl, noneNext_iff.mpr ?_⟩)⟩
          simp [isSign, hminus, hplus]

theorem exists_opening (text : List Char) : ∃ opening : Opening, opening.Of text := by
  obtain ⟨sign, after, hafter, hsign⟩ := exists_sign (text.dropWhile isBlank)
  have hdigits : after.takeWhile Char.isDigit ++ after.dropWhile Char.isDigit = after :=
    List.takeWhile_append_dropWhile
  refine ⟨⟨text.takeWhile isBlank, sign, after.takeWhile Char.isDigit,
    after.dropWhile Char.isDigit⟩, ?_, ?_, ?_, ?_, ?_, ?_⟩
  · rw [hdigits, ← hafter, List.takeWhile_append_dropWhile]
  · exact fun c hc => List.mem_takeWhile_imp hc
  · rw [hdigits, ← hafter]
    exact noneNext_dropWhile isBlank text
  · rwa [hdigits]
  · exact fun c hc => List.mem_takeWhile_imp hc
  · exact noneNext_dropWhile Char.isDigit after

/--
Every text can be taken apart into blanks, a sign or none, digits and a rest.  A number is read
unless no digit comes after the sign, and it is that of the digits, however many, cut at the
greatest word.  Bytes read into words come to the same, and no cut and no operation fails.
-/
theorem readInt_of_opening (text : List Char) :
    (∃ opening : Opening, opening.Of text) ∧
      ∀ opening : Opening, opening.Of text →
        (readInt text = none ↔ NoneNext Char.isDigit (opening.digits ++ opening.rest)) ∧
        readInt text = opening.value ∧
        ∃ word? : Option Int64, readWord? text = some word? ∧
          word?.map Int64.toInt = opening.value := by
  refine ⟨exists_opening text, fun opening h => ⟨?_, h.readInt_eq, ?_⟩⟩
  · rw [h.readInt_eq, opening.value_eq_none_iff, noneNext_iff, h.takeWhile_eq]
  · rw [← h.readInt_eq]
    exact readWord?_eq text

theorem readInt_of_opening_cut_at_the_word :
    let digits := List.replicate 3 '0' ++ List.replicate 20 '9'
    let opening : Opening := ⟨['\u3000', ' '], ['-'], digits, ['é', '7']⟩
    let text := ['\u3000', ' '] ++ ('-' :: digits ++ ['é', '7'])
    opening.Of text ∧ readInt text = some (-(2 ^ 63 - 1)) ∧
      ∃ word? : Option Int64, readWord? text = some word? ∧
        word?.map Int64.toInt = some (-(2 ^ 63 - 1)) := by
  intro digits opening text
  have hopening : opening.Of text :=
    ⟨rfl, by decide, noneNext_iff.mpr (by decide), Or.inl rfl, List.all_eq_true.mp (by decide),
      noneNext_iff.mpr (by decide)⟩
  have hvalue : opening.value = some (-(2 ^ 63 - 1)) := by decide
  obtain ⟨-, hread, hword⟩ := (readInt_of_opening text).2 opening hopening
  rw [hvalue] at hread hword
  exact ⟨hopening, hread, hword⟩

end PulseTracker.Song
