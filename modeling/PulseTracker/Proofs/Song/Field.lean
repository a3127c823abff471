import PulseTracker.Proofs.Text.Split
import PulseTracker.Song.Text

/-!
# Fields of a song text

A field that was written is found again, whatever text stands behind it: fields
with other keys are passed over, and the first one with the key decides.
-/

namespace PulseTracker.Song

open PulseTracker.Text

def keys : List String := ["tempo", "d2", "ns", "p1", "p2", "nz"]

theorem key_no_separator : ∀ key ∈ keys, ';' ∉ key.toList ∧ '=' ∉ key.toList := by
  decide

theorem trim_key : ∀ key ∈ keys, trim key.toList = key.toList := by
  decide

structure FieldValue (value : List Char) : Prop where
  nonempty : value ≠ []
  solid : Solid value
  no_separator : ';' ∉ value

theorem segments_fieldText {key : String} (hkey : key ∈ keys) {value : List Char}
    (hvalue : FieldValue value) (rest : List Char) :
    (pieces ';' (fieldText key value ++ rest)).filterMap (cutAt '=') =
      (key.toList, value) :: (pieces ';' rest).filterMap (cutAt '=') := by
  obtain ⟨hsemicolon, hequals⟩ := key_no_separator key hkey
  have hsegment : ';' ∉ key.toList ++ '=' :: value := by
    simp [hsemicolon, hvalue.no_separator]
  have htext : fieldText key value ++ rest = (key.toList ++ '=' :: value) ++ ';' :: rest := by
    simp [fieldText]
  rw [htext, pieces_append_separator hsegment,
    List.filterMap_cons_some (cutAt_append_separator hequals value)]

theorem field?_fieldText {key : String} (hkey : key ∈ keys) {value : List Char}
    (hvalue : FieldValue value) (rest : List Char) :
    field? (fieldText key value ++ rest) key = some value := by
  have hnonempty : value.isEmpty = false := List.isEmpty_eq_false_iff.mpr hvalue.nonempty
  simp only [field?, segments_fieldText hkey hvalue, List.find?_cons, trim_key key hkey,
    decide_true, trim_solid hvalue.solid, hnonempty, Bool.false_eq_true, if_false]

theorem field?_fieldText_of_ne {key other : String} (hkey : key ∈ keys) (hne : key ≠ other)
    {value : List Char} (hvalue : FieldValue value) (rest : List Char) :
    field? (fieldText key value ++ rest) other = field? rest other := by
  have hpassed : ¬ trim key.toList = other.toList := by
    rw [trim_key key hkey]
    exact fun heq => hne (String.toList_inj.mp heq)
  simp only [field?, segments_fieldText hkey hvalue, List.find?_cons, hpassed, decide_false]

theorem field?_flatMap {fields : List (String × List Char)}
    (h : ∀ field ∈ fields, field.1 ∈ keys ∧ FieldValue field.2) (rest : List Char)
    (key : String) :
    field? ((fields.flatMap fun field => fieldText field.1 field.2) ++ rest) key =
      (fields.lookup key).or (field? rest key) := by
  induction fields with
  | nil => rfl
  | cons field fields ih =>
      obtain ⟨other, value⟩ := field
      obtain ⟨hother, hvalue⟩ := h (other, value) (by simp)
      have hfields := ih fun field hfield => h field (List.mem_cons_of_mem _ hfield)
      rw [List.flatMap_cons, List.append_assoc]
      by_cases heq : other = key
      · subst heq
        rw [field?_fieldText hother hvalue, List.lookup_cons_self, Option.some_or]
      · have hlookup : List.lookup key ((other, value) :: fields) = fields.lookup key := by
          rw [List.lookup_cons, beq_false_of_ne (Ne.symm heq)]
        rw [field?_fieldText_of_ne hother heq hvalue, hfields, hlookup]

end PulseTracker.Song
