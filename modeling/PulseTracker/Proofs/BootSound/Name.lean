import Mathlib.Data.List.Induction
import PulseTracker.BootSound
import PulseTracker.Proofs.Song.Number

/-!
# Names of boot sounds

A text names a sound by the word that is left when it is trimmed and its capitals are made small.
Three sounds have a name of their own; a saved song is named by its slot, with as many zeros before
the number as one likes.  Nothing else is a name.
-/

namespace PulseTracker

/-! ## Numbers of one digit -/

theorem Decimal.digitsValue_append_singleton (digits : List Char) (c : Char) :
    digitsValue (digits ++ [c]) = digitsValue digits * 10 + (c.toNat - 48) := by
  rw [digitsValue, List.foldl_append]
  rfl

theorem digitChar_of_isDigit {c : Char} (h : c.isDigit) : Nat.digitChar (c.toNat - 48) = c := by
  obtain ⟨hlow, hhigh⟩ := Song.isDigit_toNat h
  apply Char.toNat_inj.mp
  rw [Nat.toNat_digitChar_of_lt_ten (by omega)]
  omega

theorem Decimal.digitsValue_eq_iff {digits : List Char} (hsome : digits ≠ [])
    (hdigits : ∀ c ∈ digits, c.isDigit) {n : Nat} (hn : n < 10) :
    digitsValue digits = n ↔ ∃ zeros, digits = List.replicate zeros '0' ++ [Nat.digitChar n] := by
  induction digits using List.reverseRecOn generalizing n with
  | nil => exact absurd rfl hsome
  | append_singleton digits c ih =>
      simp only [List.mem_append, List.mem_singleton, or_imp, forall_and, forall_eq] at hdigits
      obtain ⟨hlow, hhigh⟩ := Song.isDigit_toNat hdigits.2
      -- the digits before the last one are worth nothing, so they are zeros
      have hzero : digitsValue digits = 0 ↔ ∃ zeros, digits = List.replicate zeros '0' := by
        by_cases hempty : digits = []
        · subst hempty
          exact iff_of_true rfl ⟨0, rfl⟩
        · rw [ih hempty hdigits.1 (by decide)]
          constructor
          · rintro ⟨zeros, rfl⟩
            exact ⟨zeros + 1, List.replicate_succ'.symm⟩
          · rintro ⟨zeros, rfl⟩
            cases zeros with
            | zero => exact absurd rfl hempty
            | succ zeros => exact ⟨zeros, List.replicate_succ'⟩
      rw [digitsValue_append_singleton]
      constructor
      · intro hvalue
        obtain ⟨zeros, rfl⟩ := hzero.mp (by omega)
        refine ⟨zeros, ?_⟩
        rw [← digitChar_of_isDigit hdigits.2, show c.toNat - 48 = n by omega]
      · rintro ⟨zeros, heq⟩
        obtain ⟨rfl, hlast⟩ := List.append_inj' heq rfl
        rw [hzero.mpr ⟨zeros, rfl⟩, List.singleton_inj.mp hlast,
          Nat.toNat_digitChar_of_lt_ten hn]
        omega

/-! ## Slots -/

theorem Slot.ofNumber?_eq_some_iff {n : Nat} {slot : Slot} :
    ofNumber? n = some slot ↔ n = slot.number := by
  unfold ofNumber?
  cases slot <;> split <;> simp_all [number]

theorem Slot.number_lt_ten (slot : Slot) : slot.number < 10 := by
  cases slot <;> decide

namespace BootSound

/-! ## Numbers with a sign -/

def withoutPlus : List Char → List Char
  | '+' :: rest => rest
  | text => text

theorem exists_eq_append_withoutPlus (text : List Char) :
    ∃ sign, (sign = [] ∨ sign = ['+']) ∧ text = sign ++ withoutPlus text := by
  fun_cases withoutPlus text with
  | case1 rest => exact ⟨['+'], Or.inr rfl, rfl⟩
  | case2 => exact ⟨[], Or.inl rfl, rfl⟩

theorem withoutPlus_append {sign digits : List Char} (hsign : sign = [] ∨ sign = ['+'])
    (hdigits : ∀ c ∈ digits, c.isDigit) : withoutPlus (sign ++ digits) = digits := by
  rcases hsign with rfl | rfl
  · rw [List.nil_append]
    fun_cases withoutPlus digits with
    | case1 rest =>
        have hplus := hdigits '+' (by simp)
        exact absurd hplus (by decide)
    | case2 => rfl
  · rfl

theorem smallNumber?_eq_some_iff {text : List Char} {n : Nat} :
    smallNumber? text = some n ↔ ∃ sign digits, (sign = [] ∨ sign = ['+']) ∧
      text = sign ++ digits ∧ digits ≠ [] ∧ (∀ c ∈ digits, c.isDigit) ∧
      Decimal.digitsValue digits = n ∧ n < 256 := by
  have hread : smallNumber? text = some n ↔
      withoutPlus text ≠ [] ∧ (∀ c ∈ withoutPlus text, c.isDigit) ∧
        Decimal.digitsValue (withoutPlus text) = n ∧ n < 256 := by
    change (if (withoutPlus text).isEmpty ∨ !(withoutPlus text).all Char.isDigit then none
      else if Decimal.digitsValue (withoutPlus text) < 256 then
        some (Decimal.digitsValue (withoutPlus text))
      else none) = some n ↔ _
    grind
  rw [hread]
  constructor
  · intro h
    obtain ⟨sign, hsign, htext⟩ := exists_eq_append_withoutPlus text
    exact ⟨sign, withoutPlus text, hsign, htext, h⟩
  · rintro ⟨sign, digits, hsign, rfl, h⟩
    rwa [withoutPlus_append hsign h.2.1]

/-! ## Words -/

theorem songNumber?_eq_some_iff {word : List Char} {n : Nat} :
    songNumber? word = some n ↔
      ∃ rest, word = "song".toList ++ rest ∧ smallNumber? rest = some n := by
  unfold songNumber?
  constructor
  · intro h
    split at h
    · rename_i hprefix
      obtain ⟨rest, rfl⟩ := List.isPrefixOf_iff_prefix.mp hprefix
      exact ⟨rest, rfl, h⟩
    · cases h
  · rintro ⟨rest, rfl, h⟩
    rw [if_pos (List.isPrefixOf_iff_prefix.mpr (List.prefix_append ..))]
    exact h

inductive Named : List Char → BootSound → Prop where
  | cute : Named "cute".toList .cute
  | majestic : Named "majestic".toList .majestic
  | jingle : Named "gb".toList .jingle
  | song (sign : List Char) (zeros : Nat) (slot : Slot) : sign = [] ∨ sign = ['+'] →
      Named ("song".toList ++ (sign ++ (List.replicate zeros '0' ++ [Nat.digitChar slot.number])))
        (.song slot)

theorem named_song_iff {word : List Char} {slot : Slot} :
    songNumber? word = some slot.number ↔ Named word (.song slot) := by
  rw [songNumber?_eq_some_iff]
  constructor
  · rintro ⟨rest, rfl, hrest⟩
    obtain ⟨sign, digits, hsign, rfl, hsome, hdigits, hvalue, -⟩ :=
      smallNumber?_eq_some_iff.mp hrest
    obtain ⟨zeros, rfl⟩ :=
      (Decimal.digitsValue_eq_iff hsome hdigits slot.number_lt_ten).mp hvalue
    exact .song sign zeros slot hsign
  · rintro ⟨⟩
    rename_i sign zeros hsign
    have hdigits : ∀ c ∈ List.replicate zeros '0' ++ [Nat.digitChar slot.number], c.isDigit := by
      simp only [List.mem_append, List.mem_replicate, List.mem_singleton]
      rintro c (⟨-, rfl⟩ | rfl)
      · decide
      · cases slot <;> decide
    have hvalue := (Decimal.digitsValue_eq_iff (by simp) hdigits slot.number_lt_ten).mpr
      ⟨zeros, rfl⟩
    have hsmall := Nat.lt_trans slot.number_lt_ten (by decide : 10 < 256)
    exact ⟨_, rfl, smallNumber?_eq_some_iff.mpr
      ⟨sign, _, hsign, rfl, by simp, hdigits, hvalue, hsmall⟩⟩

/-- The word that a text has in it: blanks around it and capitals do not count. -/
def wordOf (text : List Char) : List Char := (Text.trim text).map Char.toLower

theorem song_ne {name : List Char} (h : name.head? ≠ some 's') (rest : List Char) :
    "song".toList ++ rest ≠ name := by
  rintro rfl
  exact h rfl

theorem ofChars?_eq_some_iff (text : List Char) (sound : BootSound) :
    ofChars? text = some sound ↔ Named (wordOf text) sound := by
  unfold ofChars? wordOf
  dsimp only
  generalize (Text.trim text).map Char.toLower = word
  constructor
  · intro h
    split at h
    case isTrue hword =>
      subst hword
      cases h
      exact .cute
    split at h
    case isTrue hword =>
      subst hword
      cases h
      exact .majestic
    split at h
    case isTrue hword =>
      subst hword
      cases h
      exact .jingle
    obtain ⟨slot, hslot, rfl⟩ := Option.map_eq_some_iff.mp h
    obtain ⟨n, hn, hnumber⟩ := Option.bind_eq_some_iff.mp hslot
    rw [Slot.ofNumber?_eq_some_iff.mp hnumber] at hn
    exact named_song_iff.mp hn
  · intro h
    cases h with
    | cute => rfl
    | majestic => rfl
    | jingle => rfl
    | song sign zeros slot hsign =>
        rw [if_neg (song_ne (by decide) _), if_neg (song_ne (by decide) _),
          if_neg (song_ne (by decide) _), named_song_iff.mpr (.song sign zeros slot hsign),
          Option.bind_some, Slot.ofNumber?_eq_some_iff.mpr rfl]
        rfl

/--
A text is read as a sound exactly when its word names that sound, and every other text is an error
that quotes it.  The name that a sound is shown with is read as that sound again.
-/
theorem ofText_eq_ok_iff (text : String) :
    (∀ sound, ofText text = .ok sound ↔ Named (wordOf text.toList) sound) ∧
      (ofText text = .error ⟨text⟩ ↔ ∀ sound, ¬ Named (wordOf text.toList) sound) ∧
      ∀ sound : BootSound, ofText sound.name = .ok sound := by
  refine ⟨?_, ?_, ?_⟩
  · intro sound
    rw [← ofChars?_eq_some_iff, ofText]
    cases ofChars? text.toList <;> simp
  · simp only [← ofChars?_eq_some_iff, ofText]
    cases ofChars? text.toList <;> simp
  · intro sound
    cases sound with
    | song slot => cases slot <;> decide
    | cute | majestic | jingle => decide

example : ofText "\tSong+003 \n" = .ok (.song .third) := by decide

end BootSound

end PulseTracker
