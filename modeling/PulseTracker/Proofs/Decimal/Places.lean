import PulseTracker.Decimal.Read
import PulseTracker.Proofs.Decimal.Rounding
import PulseTracker.Proofs.Song.Number

/-!
# Reading what was written with a fixed number of places

The digits of a written number are those of its count of units of the last place, and they are read
as the number nearest to that count.  It is written with the same digits again, so that the text is
a fixed point of reading and writing, which the number itself need not be.
-/

namespace PulseTracker.Decimal

open PulseTracker.Song PulseTracker.Text

/-! ## Digits -/

theorem digitsValue_eq (digits : List Char) :
    digitsValue digits = Nat.ofDigitChars 10 digits 0 := by
  simp only [digitsValue, Nat.ofDigitChars, Nat.mul_comm]
  rfl

theorem digitsValue_append (digits digits' : List Char) :
    digitsValue (digits ++ digits') =
      10 ^ digits'.length * digitsValue digits + digitsValue digits' := by
  simp only [digitsValue_eq]
  rw [Nat.ofDigitChars_append, Nat.ofDigitChars_eq_ofDigitChars_zero]

theorem digitsValue_toDigits (n : Nat) : digitsValue (Nat.toDigits 10 n) = n := by
  rw [digitsValue_eq, Nat.ofDigitChars_ten_toDigits]

theorem digitsValue_paddedDigits (width n : Nat) : digitsValue (paddedDigits width n) = n := by
  have hzeros (count : Nat) : digitsValue (List.replicate count '0') = 0 := by
    rw [digitsValue_eq, Nat.ofDigitChars_replicate_zero, Nat.mul_zero]
  rw [paddedDigits, digitsValue_append, hzeros, digitsValue_toDigits, Nat.mul_zero, Nat.zero_add]

theorem length_paddedDigits {width n : Nat} (hwidth : 0 < width) (h : n < 10 ^ width) :
    (paddedDigits width n).length = width := by
  have hle := (Nat.length_toDigits_le_iff (by decide) hwidth).mpr h
  rw [paddedDigits, List.length_append, List.length_replicate]
  omega

theorem paddedDigits_isDigit (width n : Nat) : ∀ c ∈ paddedDigits width n, c.isDigit := by
  intro c hc
  rcases List.mem_append.mp hc with hzero | hdigit
  · rw [List.eq_of_mem_replicate hzero]
    rfl
  · exact toDigits_isDigit n c hdigit

/-! ## Numerals -/

theorem takeDigits_append {digits : List Char} (h : ∀ c ∈ digits, c.isDigit) (rest : List Char) :
    takeDigits (digits ++ rest) = (digits ++ (takeDigits rest).1, (takeDigits rest).2) := by
  rw [takeDigits, List.takeWhile_append_of_pos h, List.dropWhile_append_of_pos h]
  rfl

theorem readNumeral_point {whole fraction : List Char} (hsome : whole ≠ [])
    (hwhole : ∀ c ∈ whole, c.isDigit) (hfraction : ∀ c ∈ fraction, c.isDigit) :
    readNumeral (whole ++ '.' :: fraction) = some ⟨whole, fraction, 0⟩ := by
  have hpoint : takeDigits ('.' :: fraction) = ([], '.' :: fraction) := rfl
  have hend := takeDigits_append hfraction []
  rw [List.append_nil] at hend
  rw [readNumeral, takeDigits_append hwhole, hpoint, List.append_nil]
  simp only [hend]
  have hempty : takeDigits [] = ([], []) := rfl
  rw [hempty, List.append_nil, if_neg fun h => hsome (List.isEmpty_iff.mp h.1)]
  rfl

theorem readMagnitude_digit {c : Char} (h : c.isDigit) (rest : List Char) :
    readMagnitude (c :: rest) = (readNumeral (c :: rest)).map Numeral.value := by
  obtain ⟨hlow, hhigh⟩ := (isDigit_iff c).mp h
  have hlower : c.toLower = c := by
    rw [Char.toLower, dif_neg]
    rintro ⟨hupper, -⟩
    have hfirst : 65 ≤ c.toNat := UInt32.le_iff_toNat_le.mp hupper
    omega
  have hword {first : Char} {letters : List Char} (hletter : 57 < first.toNat) :
      (c :: rest).map Char.toLower ≠ first :: letters := by
    intro heq
    have hfirst := (List.cons.inj heq).1
    rw [hlower] at hfirst
    rw [hfirst] at hhigh
    omega
  have hinf : (c :: rest).map Char.toLower ≠ "inf".toList := hword (by decide)
  have hinfinity : (c :: rest).map Char.toLower ≠ "infinity".toList := hword (by decide)
  have hnan : (c :: rest).map Char.toLower ≠ "nan".toList := hword (by decide)
  rw [readMagnitude, if_neg (not_or.mpr ⟨hinf, hinfinity⟩), if_neg hnan]

theorem nearest_zero {den : Nat} (hden : 0 < den) : nearest 0 den = 0 := by
  have hlost : lostPlaces 0 den = 0 := by
    rw [lostPlaces, Nat.zero_mul, Nat.zero_div]
    rfl
  have hkept : keptUnits 0 den = 0 := by
    rw [keptUnits, Nat.zero_mul, zero_roundDiv (lostPlaces_pos 0 hden)]
  have hbits : nearestBits 0 den = 0 := by
    rw [nearestBits_eq, hlost, hkept, Nat.zero_mul]
    rfl
  rw [nearest, hbits]
  rfl

theorem Numeral.value_of_places {numeral : Numeral} {places count : Nat}
    (hexponent : numeral.exponent = 0) (hlength : numeral.fraction.length = places)
    (hvalue : digitsValue (numeral.whole ++ numeral.fraction) = count)
    (hpos : 0 < places) (hplaces : places ≤ 44) (hcount : count < hiddenBit) :
    numeral.value = nearest count (10 ^ places) := by
  rw [value, hexponent, hlength, hvalue]
  have hdigits : (Nat.toDigits 10 count).length ≤ 7 :=
    (Nat.length_toDigits_le_iff (by decide) (by decide)).mpr (by rw [hiddenBit_eq] at hcount; omega)
  by_cases hnone : count = 0
  · rw [if_pos (Or.inl hnone), hnone, nearest_zero (Nat.pow_pos (by decide))]
  · have hlow : ¬((Nat.toDigits 10 count).length : Int) + (0 - places) < -digitBound := by
      change ¬_ < (-60 : Int)
      omega
    have hhigh : ¬digitBound < ((Nat.toDigits 10 count).length : Int) + (0 - places) := by
      change ¬(60 : Int) < _
      omega
    have hback : (-(0 - (places : Int))).toNat = places := by omega
    rw [if_neg (not_or.mpr ⟨hnone, hlow⟩), if_neg hhigh, if_neg (by omega), hback, Nat.pow_eq]

/-! ## Signs -/

def signed (negative : Bool) (x : Float32) : Float32 := if negative then -x else x

theorem readChars_digit {c : Char} (h : c.isDigit) (rest : List Char) :
    readChars (c :: rest) = readMagnitude (c :: rest) := by
  unfold readChars
  split
  · rename_i heq
    rw [(List.cons.inj heq).1] at h
    exact absurd h (by decide)
  · rename_i heq
    rw [(List.cons.inj heq).1] at h
    exact absurd h (by decide)
  · rfl

theorem readChars_signText {c : Char} (h : c.isDigit) (negative : Bool) (rest : List Char) :
    readChars (signText negative ++ c :: rest) =
      (readMagnitude (c :: rest)).map (signed negative) := by
  cases negative with
  | false => exact (readChars_digit h rest).trans Option.map_id'.symm
  | true => rfl

section Signed

variable {x : Float32} (h : x.toBits.toNat < infiniteBits) (negative : Bool)

include h

theorem toBits_signed :
    (signed negative x).toBits.toNat = (if negative then 2 ^ 31 else 0) + x.toBits.toNat := by
  change _ < 255 * 2 ^ 23 at h
  cases negative with
  | false => exact (Nat.zero_add _).symm
  | true =>
      change (-x).toBits.toNat = 2 ^ 31 + _
      rw [Single.toBits_neg (by omega)]
      omega

theorem isNegative_signed : isNegative (signed negative x) = negative := by
  rw [isNegative, toBits_signed h]
  change _ < 255 * 2 ^ 23 at h
  cases negative with
  | false => exact decide_eq_false (by rw [if_neg Bool.false_ne_true]; omega)
  | true => exact decide_eq_true (Nat.le_add_right _ _)

theorem low_signed : (signed negative x).toBits.toNat % 2 ^ 31 = x.toBits.toNat := by
  rw [toBits_signed h]
  change _ < 255 * 2 ^ 23 at h
  split
  · omega
  · omega

theorem fixedChars_signed (places : Nat) :
    fixedChars places (signed negative x) =
      signText negative ++ placesText places (placeUnits places x) := by
  have hlow := low_signed h negative
  have hself : x.toBits.toNat % 2 ^ 31 = x.toBits.toNat := low_signed h false
  have hunits : placeUnits places (signed negative x) = placeUnits places x := by
    rw [placeUnits, hlow, placeUnits, hself]
  rw [fixedChars_eq places (hlow.symm ▸ h), isNegative_signed h, hunits]

end Signed

/-! ## Reading back -/

theorem placesText_eq {places : Nat} (hpos : 0 < places) (count : Nat) :
    placesText places count = Nat.toDigits 10 (count / 10 ^ places) ++
      '.' :: paddedDigits places (count % 10 ^ places) := by
  rw [placesText, if_neg (Nat.ne_of_gt hpos), Nat.pow_eq]

section Count

variable {places count : Nat} (hpos : 0 < places) (hplaces : places ≤ 44)
  (hcount : count < hiddenBit)

include hpos hplaces hcount

/-- The text of a count is read as the number nearest to it. -/
theorem readChars_placesText (negative : Bool) :
    readChars (signText negative ++ placesText places count) =
      some (signed negative (nearest count (10 ^ places))) := by
  obtain ⟨c, rest, hwhole⟩ := List.exists_cons_of_ne_nil
    (Nat.toDigits_ne_nil (n := count / 10 ^ places) (b := 10))
  have hfirst : c.isDigit := toDigits_isDigit _ c (by rw [hwhole]; exact List.mem_cons_self)
  have hlength : (paddedDigits places (count % 10 ^ places)).length = places :=
    length_paddedDigits hpos (Nat.mod_lt _ (Nat.pow_pos (by decide)))
  have hvalue : digitsValue (Nat.toDigits 10 (count / 10 ^ places) ++
      paddedDigits places (count % 10 ^ places)) = count := by
    rw [digitsValue_append, hlength, digitsValue_toDigits, digitsValue_paddedDigits,
      Nat.div_add_mod]
  have hnumeral := readNumeral_point Nat.toDigits_ne_nil
    (toDigits_isDigit (count / 10 ^ places))
    (paddedDigits_isDigit places (count % 10 ^ places))
  rw [placesText_eq hpos, hwhole, List.cons_append, readChars_signText hfirst,
    readMagnitude_digit hfirst, ← List.cons_append, ← hwhole, hnumeral, Option.map_some,
    Numeral.value_of_places rfl hlength hvalue hpos hplaces hcount, Option.map_some]

omit hpos in
theorem fixedChars_nearest (negative : Bool) :
    fixedChars places (signed negative (nearest count (10 ^ places))) =
      signText negative ++ placesText places count := by
  have hpow : 10 ^ places < 2 ^ 149 :=
    Nat.lt_of_le_of_lt (Nat.pow_le_pow_right (by decide) hplaces) (by decide)
  obtain ⟨hbits, hunits⟩ := placeUnits_nearest hcount hpow
  rw [fixedChars_signed hbits, hunits]

end Count

theorem placesText_ne_nil (places count : Nat) : placesText places count ≠ [] := by
  rw [placesText]
  split
  · exact Nat.toDigits_ne_nil
  · exact List.append_ne_nil_of_left_ne_nil Nat.toDigits_ne_nil _

theorem fixedChars_ne_nil (places : Nat) (x : Float32) : fixedChars places x ≠ [] := by
  rw [fixedChars]
  split
  · decide
  · exact List.append_ne_nil_of_right_ne_nil _ (by decide)
  · exact List.append_ne_nil_of_right_ne_nil _ (placesText_ne_nil _ _)

theorem solid_signText_placesText (negative : Bool) (places count : Nat) :
    Solid (signText negative ++ placesText places count) := by
  have hdigit {digits : List Char} (h : ∀ c ∈ digits, c.isDigit) : Solid digits :=
    fun c hc => isBlank_of_isDigit (h c hc)
  intro c hc
  rcases List.mem_append.mp hc with hsign | hplaces
  · cases negative with
    | false => cases hsign
    | true =>
        rw [List.mem_singleton.mp hsign]
        rfl
  · rw [placesText] at hplaces
    split at hplaces
    · exact hdigit (toDigits_isDigit _) c hplaces
    · rcases List.mem_append.mp hplaces with hwhole | hrest
      · exact hdigit (toDigits_isDigit _) c hwhole
      · rcases List.mem_cons.mp hrest with rfl | hfraction
        · rfl
        · exact hdigit (paddedDigits_isDigit _ _) c hfraction

theorem zero_le_signed_le_one {negative : Bool} {x : Float32}
    (h : x.toBits.toNat ≤ 127 * hiddenBit) (hzero : negative = true → x = 0) :
    0 ≤ signed negative x ∧ signed negative x ≤ 1 := by
  cases negative with
  | false => exact Single.zero_le_le_one_iff.mpr (Or.inl h)
  | true =>
      rw [hzero rfl]
      decide

theorem placeUnits_of_negative {places : Nat} {x : Float32} (hx : 0 ≤ x ∧ x ≤ 1)
    (hnegative : isNegative x = true) : placeUnits places x = 0 := by
  have hbits := Single.zero_le_le_one_iff.mp hx
  have hsign : 2 ^ 31 ≤ x.toBits.toNat := of_decide_eq_true hnegative
  have hunits : units (x.toBits.toNat % 2 ^ 31) = 0 := by
    rw [show x.toBits.toNat % 2 ^ 31 = 0 by omega]
    rfl
  rw [placeUnits, hunits, Nat.zero_mul, zero_roundDiv (Nat.two_pow_pos 149)]

/-- A number from zero to one that was written is read as one that is written the same. -/
theorem readChars_trim_fixedChars {places : Nat} (hpos : 0 < places) (hplaces : places ≤ 6)
    {x : Float32} (hx : 0 ≤ x ∧ x ≤ 1) :
    ∃ y : Float32, readChars (trim (fixedChars places x)) = some y ∧ (0 ≤ y ∧ y ≤ 1) ∧
      fixedChars places y = fixedChars places x := by
  have hbits := Single.zero_le_le_one_iff.mp hx
  have hlow : x.toBits.toNat % 2 ^ 31 ≤ 127 * hiddenBit := by
    rw [hiddenBit_eq]
    omega
  have hfinite : x.toBits.toNat % 2 ^ 31 < infiniteBits := Nat.lt_of_le_of_lt hlow (by decide)
  have hcount : placeUnits places x ≤ 10 ^ places := by
    have hunits := Nat.mul_le_mul_right (10 ^ places) (units_le hlow)
    exact roundDiv_le (Nat.two_pow_pos 149) (by omega)
  have hsmall : placeUnits places x < hiddenBit :=
    Nat.lt_of_le_of_lt (Nat.le_trans hcount (Nat.pow_le_pow_right (by decide) hplaces)) (by decide)
  have hfixed := fixedChars_eq places hfinite
  refine ⟨signed (isNegative x) (nearest (placeUnits places x) (10 ^ places)), ?_, ?_, ?_⟩
  · rw [hfixed, trim_solid (solid_signText_placesText _ _ _)]
    exact readChars_placesText hpos (by omega) hsmall (isNegative x)
  · apply zero_le_signed_le_one
    · rw [toBits_nearest]
      exact nearestBits_le_one _ (Nat.pow_pos (by decide)) hcount
    · intro hnegative
      rw [placeUnits_of_negative hx hnegative, nearest_zero (Nat.pow_pos (by decide))]
  · rw [hfixed]
    exact fixedChars_nearest (by omega) hsmall (isNegative x)

end PulseTracker.Decimal
