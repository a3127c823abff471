import PulseTracker.Proofs.Song.RoundTrip

/-!
# Loading any text

Whatever the text is, loading it gives a canonical song: the rule of each field
ends inside the range that a text can say.  So the text of a loaded song gives
that song again, and the songs that can be loaded are exactly the canonical ones.
-/

namespace PulseTracker.Song

/-! ## Entries -/

theorem entryOfInt_le {top : UInt8} {number : Int} {value : UInt8}
    (h : entryOfInt top.toNat number = some value) : value ≤ top := by
  unfold entryOfInt at h
  split at h
  · cases h
  · have hvalue := Option.some.inj h
    have htop := top.toNat_lt
    have hmod := Nat.mod_le (min top.toNat number.toNat) 256
    rw [← hvalue, UInt8.le_iff_toNat_le, Nat.toUInt8_eq, UInt8.toNat_ofNat']
    omega

theorem entriesOfText_within (top : UInt8) (text : List Char) :
    EntriesWithin top (entriesOfText top.toNat text) where
  length := by
    simp only [entriesOfText, List.length_append, List.length_replicate, List.length_map,
      List.length_take, Pattern.barSteps]
    omega
  le value hvalue := by
    simp only [entriesOfText, List.mem_append, List.mem_map, List.mem_replicate] at hvalue
    rcases hvalue with ⟨item, -, hitem⟩ | ⟨-, hrest⟩
    · exact entryOfInt_le hitem
    · cases hrest

theorem rests_within (top : UInt8) : EntriesWithin top (List.replicate Pattern.barSteps none) where
  length := List.length_replicate
  le value hvalue := by
    have hrest := List.eq_of_mem_replicate hvalue
    cases hrest

theorem entriesField_within (top : UInt8) (text : List Char) (key : String) :
    EntriesWithin top (entriesField top.toNat text key) := by
  unfold entriesField
  split
  · exact entriesOfText_within top _
  · exact rests_within top

/-! ## Settings -/

theorem one_le_tempoOfInt (number : Int) : 1 ≤ tempoOfInt number := by
  unfold tempoOfInt
  split
  · rename_i hpos
    have hmod : min (UInt32.size - 1) number.toNat % 2 ^ 32 =
        min (UInt32.size - 1) number.toNat := by
      rw [UInt32.size]
      omega
    rw [UInt32.le_iff_toNat_le, Nat.toUInt32_eq, UInt32.toNat_ofNat', hmod, UInt32.size]
    show 1 ≤ _
    omega
  · decide

theorem dutyIndexOfInt_le (number : Int) : dutyIndexOfInt number ≤ 3 := by
  unfold dutyIndexOfInt
  split
  · rename_i hrange
    rw [UInt8.le_iff_toNat_le, Nat.toUInt8_eq, UInt8.toNat_ofNat']
    show _ ≤ 3
    omega
  · decide

/-! ## Songs -/

theorem ofChars_canonical (text : List Char) : (ofChars text).Canonical where
  tempo := by
    simp only [ofChars]
    cases intField? text "tempo" with
    | none => decide
    | some number => exact one_le_tempoOfInt number
  duty := by
    simp only [ofChars]
    cases intField? text "d2" with
    | none => decide
    | some number => exact dutyIndexOfInt_le number
  steps := rfl
  lead := entriesField_within 127 text "p1"
  harmony := entriesField_within 127 text "p2"
  noise := entriesField_within 2 text "nz"

theorem ofText_toText_of_canonical {song : Song} (h : song.Canonical) :
    ofText song.toText = song := by
  have hload := song.ofChars_toChars_append []
  rw [List.append_nil] at hload
  rw [ofText, toText, String.toList_ofList, hload]
  exact song.normalized_eq_self_iff.mpr h

/-- The canonical songs are those that some text loads. -/
theorem canonical_iff_exists_text (song : Song) :
    song.Canonical ↔ ∃ text, ofText text = song := by
  constructor
  · intro h
    exact ⟨song.toText, ofText_toText_of_canonical h⟩
  · rintro ⟨text, rfl⟩
    exact ofChars_canonical text.toList

/-- Any text loads as a canonical song, and saving and loading that song again changes nothing. -/
theorem ofText_canonical_and_stable (text : String) :
    (ofText text).Canonical ∧ ofText (ofText text).toText = ofText text := by
  have hcanonical : (ofText text).Canonical := ofChars_canonical text.toList
  exact ⟨hcanonical, ofText_toText_of_canonical hcanonical⟩

end PulseTracker.Song
