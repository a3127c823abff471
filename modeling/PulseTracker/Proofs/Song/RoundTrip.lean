import PulseTracker.Proofs.Song.Field
import PulseTracker.Proofs.Song.Number

/-!
# Saving and loading a song

A song that is loaded from its own text comes back normalized: the lists have
sixteen entries, and what the text cannot say has moved to the nearest value it
can.  Whatever stands behind the text is ignored, since the first segment with a
key decides.
-/

namespace PulseTracker.Song

open PulseTracker.Text

/-! ## Normalized songs -/

def normalEntries (top : UInt8) (entryAt : Nat → Option UInt8) : List (Option UInt8) :=
  (List.range 16).map fun step => (entryAt step).map (min · top)

def normalized (song : Song) : Song :=
  { tempo := if song.tempo = 0 then 120 else song.tempo
    dutyIndex := if song.dutyIndex ≤ 2 then song.dutyIndex else 3
    shortNoise := song.shortNoise
    pattern :=
      { lead := normalEntries 127 song.pattern.leadAt
        harmony := normalEntries 127 song.pattern.harmonyAt
        noise := normalEntries 2 song.pattern.noiseAt
        steps := 16 } }

structure EntriesWithin (top : UInt8) (entries : List (Option UInt8)) : Prop where
  length : entries.length = 16
  le : ∀ value, some value ∈ entries → value ≤ top

structure Canonical (song : Song) : Prop where
  tempo : 1 ≤ song.tempo
  duty : song.dutyIndex ≤ 3
  steps : song.pattern.steps = 16
  lead : EntriesWithin 127 song.pattern.lead
  harmony : EntriesWithin 127 song.pattern.harmony
  noise : EntriesWithin 2 song.pattern.noise

theorem normalEntries_within (top : UInt8) (entryAt : Nat → Option UInt8) :
    EntriesWithin top (normalEntries top entryAt) where
  length := by simp [normalEntries]
  le value hvalue := by
    simp only [normalEntries, List.mem_map, Option.map_eq_some_iff] at hvalue
    obtain ⟨step, -, entry, -, rfl⟩ := hvalue
    exact Std.min_le_right

theorem normalEntries_of_within {top : UInt8} {entries : List (Option UInt8)}
    (h : EntriesWithin top entries) :
    normalEntries top (fun step => entries[step]?.join) = entries := by
  apply List.ext_getElem
  · simp [normalEntries, h.length]
  · intro step hleft hright
    simp only [normalEntries, List.getElem_map, List.getElem_range,
      List.getElem?_eq_getElem hright, Option.join_some]
    cases hentry : entries[step] with
    | none => rfl
    | some value =>
        have hle := h.le value (hentry ▸ List.getElem_mem hright)
        simp [Std.min_eq_if, hle]

theorem normalized_canonical (song : Song) : song.normalized.Canonical where
  tempo := by
    simp only [normalized]
    split
    · decide
    · rename_i htempo
      have hne : song.tempo.toNat ≠ 0 := fun h => htempo (UInt32.toNat_inj.mp h)
      exact UInt32.le_iff_toNat_le.mpr (Nat.pos_of_ne_zero hne)
  duty := by
    simp only [normalized]
    split
    · rename_i hduty
      exact Std.le_trans hduty (by decide)
    · decide
  steps := rfl
  lead := normalEntries_within _ _
  harmony := normalEntries_within _ _
  noise := normalEntries_within _ _

theorem normalized_eq_self_iff (song : Song) : song.normalized = song ↔ song.Canonical := by
  constructor
  · intro h
    rw [← h]
    exact song.normalized_canonical
  · intro h
    have htempo : song.tempo ≠ 0 := by
      intro hzero
      exact absurd (hzero ▸ h.tempo) (by decide)
    have hduty : (if song.dutyIndex ≤ 2 then song.dutyIndex else 3) = song.dutyIndex := by
      split
      · rfl
      · rename_i hwide
        have hle := h.duty
        simp only [UInt8.le_iff_toNat_le, ← UInt8.toNat_inj] at hle hwide ⊢
        exact Nat.le_antisymm (Nat.lt_of_not_le hwide) hle
    have hlead : normalEntries 127 song.pattern.leadAt = song.pattern.lead :=
      normalEntries_of_within h.lead
    have hharmony : normalEntries 127 song.pattern.harmonyAt = song.pattern.harmony :=
      normalEntries_of_within h.harmony
    have hnoise : normalEntries 2 song.pattern.noiseAt = song.pattern.noise :=
      normalEntries_of_within h.noise
    rw [normalized, if_neg htempo, hduty, hlead, hharmony, hnoise, ← h.steps]

/-! ## Written values -/

def Plain (value : List Char) : Prop := ∀ c ∈ value, c.isDigit ∨ c = ',' ∨ c = '-'

theorem Plain.fieldValue {value : List Char} (h : Plain value) (hnonempty : value ≠ []) :
    FieldValue value where
  nonempty := hnonempty
  solid c hc := by
    rcases h c hc with hdigit | rfl | rfl
    · exact isBlank_of_isDigit hdigit
    · decide
    · decide
  no_separator hc := by
    have hseparator := h ';' hc
    revert hseparator
    decide

theorem fieldValue_toDigits (n : Nat) : FieldValue (Nat.toDigits 10 n) :=
  Plain.fieldValue (fun c hc => Or.inl (toDigits_isDigit n c hc)) Nat.toDigits_ne_nil

theorem fieldValue_flag (flag : Bool) : FieldValue (if flag then ['1'] else ['0']) := by
  cases flag
  · exact fieldValue_toDigits 0
  · exact fieldValue_toDigits 1

theorem entryText_digit_or_minus (entry : Option UInt8) :
    ∀ c ∈ entryText entry, c.isDigit ∨ c = '-' := by
  cases entry with
  | none =>
      intro c hc
      simp only [entryText, List.mem_cons, List.not_mem_nil, or_false] at hc
      rcases hc with rfl | rfl
      · exact Or.inr rfl
      · exact Or.inl rfl
  | some value => exact fun c hc => Or.inl (toDigits_isDigit value.toNat c hc)

theorem entryText_ne_nil (entry : Option UInt8) : entryText entry ≠ [] := by
  cases entry with
  | none => exact List.cons_ne_nil _ _
  | some value => exact Nat.toDigits_ne_nil

theorem comma_not_mem_entryText (entry : Option UInt8) : ',' ∉ entryText entry := by
  intro hc
  have hcomma := entryText_digit_or_minus entry ',' hc
  revert hcomma
  decide

/-! ## Written lists -/

theorem plain_entryText (entry : Option UInt8) : Plain (entryText entry) := by
  intro c hc
  rcases entryText_digit_or_minus entry c hc with hdigit | hminus
  · exact Or.inl hdigit
  · exact Or.inr (Or.inr hminus)

theorem plain_listText (entries : List (Option UInt8)) : Plain (listText entries) := by
  fun_induction listText entries with
  | case1 => intro c hc; simp at hc
  | case2 entry => exact plain_entryText entry
  | case3 entry rest hrest ih =>
      intro c hc
      rw [List.mem_append, List.mem_cons] at hc
      rcases hc with hentry | rfl | htail
      · exact plain_entryText entry c hentry
      · exact Or.inr (Or.inl rfl)
      · exact ih c htail

theorem listText_ne_nil {entries : List (Option UInt8)} (h : entries ≠ []) :
    listText entries ≠ [] := by
  fun_cases listText entries with
  | case1 => exact absurd rfl h
  | case2 entry => exact entryText_ne_nil entry
  | case3 entry rest hrest => simp

theorem pieces_listText {entries : List (Option UInt8)} (h : entries ≠ []) :
    pieces ',' (listText entries) = entries.map entryText := by
  fun_induction listText entries with
  | case1 => exact absurd rfl h
  | case2 entry => exact pieces_of_not_mem (comma_not_mem_entryText entry)
  | case3 entry rest hrest ih =>
      rw [pieces_append_separator (comma_not_mem_entryText entry), ih (by simpa using hrest)]
      rfl

theorem toUInt8_min_toNat (top value : UInt8) :
    (min top.toNat value.toNat).toUInt8 = min value top := by
  have hmin : min value top = if value ≤ top then value else top := rfl
  rw [hmin]
  split
  · rename_i hle
    rw [Nat.min_eq_right (UInt8.le_iff_toNat_le.mp hle)]
    exact UInt8.ofNat_toNat
  · rename_i hnot
    have hle : top.toNat ≤ value.toNat := by
      rw [UInt8.le_iff_toNat_le] at hnot
      omega
    rw [Nat.min_eq_left hle]
    exact UInt8.ofNat_toNat

theorem entryOfInt_entryText (top : UInt8) (entry : Option UInt8) :
    entryOfInt top.toNat ((readInt (entryText entry)).getD 0) = entry.map (min · top) := by
  cases entry with
  | none => rw [entryText, readInt_rest]; rfl
  | some value =>
      have hvalue : value.toNat ≤ magnitudeMax :=
        Nat.le_trans (Nat.le_of_lt value.toNat_lt) (by decide)
      have hnonneg : ¬ (value.toNat : Int) < 0 := by omega
      rw [entryText, readInt_toDigits_of_le hvalue, Option.getD_some, entryOfInt,
        if_neg hnonneg, Int.toNat_natCast, toUInt8_min_toNat, Option.map_some]

theorem entriesOfText_savedEntries (top : UInt8) (entryAt : Nat → Option UInt8) :
    entriesOfText top.toNat (listText (savedEntries entryAt)) =
      normalEntries top entryAt := by
  have hlength : (savedEntries entryAt).length = Pattern.barSteps := by simp [savedEntries]
  have hnonempty : savedEntries entryAt ≠ [] := by
    intro hnil
    rw [hnil] at hlength
    exact absurd hlength (by decide)
  have htake : ((savedEntries entryAt).map entryText).take Pattern.barSteps =
      (savedEntries entryAt).map entryText :=
    List.take_of_length_le (by rw [List.length_map, hlength])
  simp only [entriesOfText, pieces_listText hnonempty, htake, List.map_map,
    Function.comp_def, entryOfInt_entryText, List.length_map, hlength, Nat.sub_self,
    List.replicate_zero, List.append_nil]
  simp [savedEntries, normalEntries, Pattern.barSteps]

/-! ## Written settings -/

theorem tempoOfInt_toNat (tempo : UInt32) :
    tempoOfInt tempo.toNat = if tempo = 0 then 120 else tempo := by
  by_cases hzero : tempo = 0
  · subst hzero
    rfl
  · have hpos : (tempo.toNat : Int) > 0 := by
      have hne : tempo.toNat ≠ 0 := fun h => hzero (UInt32.toNat_inj.mp h)
      omega
    have hsize : min (UInt32.size - 1) tempo.toNat = tempo.toNat := by
      have hlt := tempo.toNat_lt
      rw [UInt32.size]
      omega
    rw [if_neg hzero, tempoOfInt, if_pos hpos, Int.toNat_natCast, hsize]
    exact UInt32.ofNat_toNat

theorem dutyIndexOfInt_toNat (dutyIndex : UInt8) :
    dutyIndexOfInt dutyIndex.toNat = if dutyIndex ≤ 2 then dutyIndex else 3 := by
  have hrange : (0 ≤ (dutyIndex.toNat : Int) ∧ (dutyIndex.toNat : Int) ≤ 2) ↔
      dutyIndex ≤ 2 := by
    rw [UInt8.le_iff_toNat_le, show (2 : UInt8).toNat = 2 from rfl]
    omega
  simp only [dutyIndexOfInt, hrange, Int.toNat_natCast]
  split
  · exact UInt8.ofNat_toNat
  · rfl

theorem readInt_flag (flag : Bool) :
    (readInt (if flag then ['1'] else ['0'])).map (· != 0) = some flag := by
  cases flag
  · decide
  · decide

/-! ## Written songs -/

def fields (song : Song) : List (String × List Char) :=
  [("tempo", Nat.toDigits 10 song.tempo.toNat),
    ("d2", Nat.toDigits 10 song.dutyIndex.toNat),
    ("ns", if song.shortNoise then ['1'] else ['0']),
    ("p1", listText (savedEntries song.pattern.leadAt)),
    ("p2", listText (savedEntries song.pattern.harmonyAt)),
    ("nz", listText (savedEntries song.pattern.noiseAt))]

theorem toChars_eq_flatMap (song : Song) :
    song.toChars = song.fields.flatMap fun field => fieldText field.1 field.2 := by
  simp [toChars, fields]

theorem fieldValue_savedEntries (entryAt : Nat → Option UInt8) :
    FieldValue (listText (savedEntries entryAt)) :=
  (plain_listText _).fieldValue (listText_ne_nil (by simp [savedEntries, Pattern.barSteps]))

theorem fields_spec (song : Song) :
    ∀ field ∈ song.fields, field.1 ∈ keys ∧ FieldValue field.2 := by
  simp only [fields, List.forall_mem_cons, List.not_mem_nil, false_imp_iff, implies_true,
    and_true]
  refine ⟨⟨by decide, fieldValue_toDigits _⟩, ⟨by decide, fieldValue_toDigits _⟩,
    ⟨by decide, fieldValue_flag _⟩, ⟨by decide, fieldValue_savedEntries _⟩,
    ⟨by decide, fieldValue_savedEntries _⟩, ⟨by decide, fieldValue_savedEntries _⟩⟩

theorem field?_toChars_append (song : Song) (suffix : List Char) {key : String}
    {value : List Char} (h : song.fields.lookup key = some value) :
    field? (song.toChars ++ suffix) key = some value := by
  rw [toChars_eq_flatMap, field?_flatMap song.fields_spec, h, Option.some_or]

theorem entriesField_toChars_append (song : Song) (suffix : List Char) {key : String}
    (top : UInt8) (entryAt : Nat → Option UInt8)
    (h : song.fields.lookup key = some (listText (savedEntries entryAt))) :
    entriesField top.toNat (song.toChars ++ suffix) key = normalEntries top entryAt := by
  rw [entriesField, field?_toChars_append song suffix h]
  exact entriesOfText_savedEntries top entryAt

theorem intField?_toChars_append (song : Song) (suffix : List Char) {key : String}
    {n : Nat} (h : song.fields.lookup key = some (Nat.toDigits 10 n)) (hn : n ≤ magnitudeMax) :
    intField? (song.toChars ++ suffix) key = some (n : Int) := by
  rw [intField?, field?_toChars_append song suffix h, Option.bind_some]
  exact readInt_toDigits_of_le hn

theorem ofChars_toChars_append (song : Song) (suffix : List Char) :
    ofChars (song.toChars ++ suffix) = song.normalized := by
  have htempo : intField? (song.toChars ++ suffix) "tempo" = some (song.tempo.toNat : Int) :=
    song.intField?_toChars_append suffix rfl
      (Nat.le_trans (Nat.le_of_lt song.tempo.toNat_lt) (by decide))
  have hduty : intField? (song.toChars ++ suffix) "d2" = some (song.dutyIndex.toNat : Int) :=
    song.intField?_toChars_append suffix rfl
      (Nat.le_trans (Nat.le_of_lt song.dutyIndex.toNat_lt) (by decide))
  have hflag : (intField? (song.toChars ++ suffix) "ns").map (· != 0) =
      some song.shortNoise := by
    rw [intField?, field?_toChars_append song suffix rfl, Option.bind_some]
    exact readInt_flag song.shortNoise
  have hlead : entriesField noteMax (song.toChars ++ suffix) "p1" =
      normalEntries 127 song.pattern.leadAt :=
    song.entriesField_toChars_append suffix 127 _ rfl
  have hharmony : entriesField noteMax (song.toChars ++ suffix) "p2" =
      normalEntries 127 song.pattern.harmonyAt :=
    song.entriesField_toChars_append suffix 127 _ rfl
  have hnoise : entriesField pitchMax (song.toChars ++ suffix) "nz" =
      normalEntries 2 song.pattern.noiseAt :=
    song.entriesField_toChars_append suffix 2 _ rfl
  rw [ofChars, htempo, hduty, hflag, hlead, hharmony, hnoise, Option.map_some,
    Option.map_some, tempoOfInt_toNat, dutyIndexOfInt_toNat]
  rfl

/-- Loading a saved song, with any text behind it, gives the normalized song; exactly the
canonical songs come back unchanged. -/
theorem ofText_toText_append (song : Song) (suffix : String) :
    ofText (song.toText ++ suffix) = song.normalized ∧
      (ofText (song.toText ++ suffix) = song ↔ song.Canonical) := by
  have hload : ofText (song.toText ++ suffix) = song.normalized := by
    rw [ofText, toText, String.toList_append, String.toList_ofList]
    exact song.ofChars_toChars_append suffix.toList
  constructor
  · exact hload
  · rw [hload]
    exact song.normalized_eq_self_iff

end PulseTracker.Song
