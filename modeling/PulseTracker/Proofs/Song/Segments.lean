import Mathlib.Data.List.Forall2
import PulseTracker.Proofs.Song.Field

/-!
# Segments of a song text

A text is its segments with semicolons between them, and a segment counts by its trimmed key and
its trimmed value alone.  So blanks around them do not matter, nor do segments without a key of a
song; the first segment with a key decides, and while no key comes twice the order does not matter
either.
-/

namespace PulseTracker.Song

open PulseTracker.Text

/-! ## Fields -/

/-- Songs that are the same in the field that has that key in a text. -/
def AgreeAt (key : String) (first second : Song) : Prop :=
  match key with
  | "tempo" => first.tempo = second.tempo
  | "d2" => first.dutyIndex = second.dutyIndex
  | "ns" => first.shortNoise = second.shortNoise
  | "p1" => first.pattern.lead = second.pattern.lead
  | "p2" => first.pattern.harmony = second.pattern.harmony
  | "nz" => first.pattern.noise = second.pattern.noise
  | _ => True

theorem agreeAt_of_field? {key : String} (hkey : key ∈ keys) {first second : List Char}
    (h : field? first key = field? second key) :
    AgreeAt key (ofChars first) (ofChars second) := by
  simp only [keys, List.mem_cons, List.not_mem_nil, or_false] at hkey
  rcases hkey with rfl | rfl | rfl | rfl | rfl | rfl
  all_goals
    simp only [AgreeAt, ofChars, intField?, entriesField, h]

theorem ofChars_congr {first second : List Char}
    (h : ∀ key ∈ keys, field? first key = field? second key) : ofChars first = ofChars second := by
  simp only [keys, List.forall_mem_cons, List.not_mem_nil, false_imp_iff, implies_true,
    and_true] at h
  obtain ⟨htempo, hduty, hnoise, hlead, hharmony, hpitch⟩ := h
  simp only [ofChars, intField?, entriesField, htempo, hduty, hnoise, hlead, hharmony, hpitch]

/-! ## Assignments -/

def assignment? (segment : List Char) : Option (List Char × List Char) :=
  (cutAt '=' segment).map fun parts => (trim parts.1, trim parts.2)

def assignments (segments : List (List Char)) : List (List Char × List Char) :=
  segments.filterMap assignment?

/-- The first value that a key is given, unless it is empty. -/
def valueOf (key : String) (assignments : List (List Char × List Char)) : Option (List Char) :=
  (assignments.find? (·.1 = key.toList)).bind fun found =>
    if found.2.isEmpty then none else some found.2

def ofSegments (segments : List (List Char)) : Song :=
  ofText (String.ofList ([';'].intercalate segments))

theorem ofSegments_eq (segments : List (List Char)) :
    ofSegments segments = ofChars ([';'].intercalate segments) := by
  rw [ofSegments, ofText, String.toList_ofList]

theorem field?_intercalate {segments : List (List Char)} (h : ∀ segment ∈ segments, ';' ∉ segment)
    (key : String) :
    field? ([';'].intercalate segments) key = valueOf key (assignments segments) := by
  have hpieces : (pieces ';' ([';'].intercalate segments)).filterMap (cutAt '=') =
      segments.filterMap (cutAt '=') := by
    cases segments with
    | nil => rfl
    | cons segment rest => rw [pieces_intercalate (by simp) h]
  have hassignments : assignments segments = (segments.filterMap (cutAt '=')).map
      fun parts => (trim parts.1, trim parts.2) := List.map_filterMap.symm
  rw [field?, hpieces, valueOf, hassignments, List.find?_map]
  simp only [Function.comp_def]
  cases (segments.filterMap (cutAt '=')).find? fun parts => trim parts.1 = key.toList with
  | none => rfl
  | some parts => rfl

theorem ofSegments_congr {first second : List (List Char)}
    (hfirst : ∀ segment ∈ first, ';' ∉ segment) (hsecond : ∀ segment ∈ second, ';' ∉ segment)
    (h : ∀ key ∈ keys, valueOf key (assignments first) = valueOf key (assignments second)) :
    ofSegments first = ofSegments second := by
  rw [ofSegments_eq, ofSegments_eq]
  apply ofChars_congr
  intro key hkey
  rw [field?_intercalate hfirst, field?_intercalate hsecond, h key hkey]

/-! ## Spacing -/

/-- A segment, with blanks put around its key and its value if it has them. -/
inductive Respaced : List Char → List Char → Prop where
  | same (segment : List Char) : Respaced segment segment
  | around (key value before after left right : List Char) :
      '=' ∉ key → Blank before → Blank after → Blank left → Blank right →
      Respaced (key ++ '=' :: value) ((before ++ key ++ after) ++ '=' :: (left ++ value ++ right))

theorem Respaced.assignment?_eq {segment other : List Char} (h : Respaced segment other) :
    assignment? other = assignment? segment := by
  cases h with
  | same => rfl
  | around key value before after left right hkey hbefore hafter hleft hright =>
      -- no blank is an equals sign, so the segment is cut at the same one
      have hequals : isBlank '=' = false := by decide
      have hspaced := hbefore.not_mem hequals
      have hspaced' := hafter.not_mem hequals
      rw [assignment?, assignment?, cutAt_append_separator hkey,
        cutAt_append_separator (by simp [hkey, hspaced, hspaced'])]
      simp only [Option.map_some, trim_blanks hbefore hafter, trim_blanks hleft hright]

theorem Respaced.not_mem {segment other : List Char} (h : Respaced segment other)
    (hsegment : ';' ∉ segment) : ';' ∉ other := by
  cases h with
  | same => exact hsegment
  | around key value before after left right hkey hbefore hafter hleft hright =>
      have hsemicolon : isBlank ';' = false := by decide
      simp only [List.mem_append, List.mem_cons, not_or] at hsegment ⊢
      exact ⟨⟨⟨hbefore.not_mem hsemicolon, hsegment.1⟩, hafter.not_mem hsemicolon⟩,
        hsegment.2.1, ⟨hleft.not_mem hsemicolon, hsegment.2.2⟩, hright.not_mem hsemicolon⟩

theorem assignments_respaced {segments others : List (List Char)}
    (h : List.Forall₂ Respaced segments others) : assignments others = assignments segments := by
  induction h with
  | nil => rfl
  | cons hfirst _ ih =>
      simp only [assignments, List.filterMap_cons, hfirst.assignment?_eq] at ih ⊢
      rw [ih]

theorem not_mem_respaced {segments others : List (List Char)}
    (h : List.Forall₂ Respaced segments others) (hsegments : ∀ segment ∈ segments, ';' ∉ segment) :
    ∀ other ∈ others, ';' ∉ other := by
  induction h with
  | nil => exact hsegments
  | cons hfirst _ ih =>
      rw [List.forall_mem_cons] at hsegments ⊢
      exact ⟨hfirst.not_mem hsegments.1, ih hsegments.2⟩

/-! ## Segments that say nothing -/

inductive Idle : List Char → Prop where
  | bare {segment : List Char} : '=' ∉ segment → Idle segment
  | unknown (key value : List Char) :
      '=' ∉ key → (∀ known ∈ keys, trim key ≠ known.toList) → Idle (key ++ '=' :: value)

theorem valueOf_idle {segment : List Char} (h : Idle segment) {key : String} (hkey : key ∈ keys)
    (rest : List (List Char)) :
    valueOf key (assignments (segment :: rest)) = valueOf key (assignments rest) := by
  cases h with
  | bare hequals =>
      rw [assignments, List.filterMap_cons, assignment?, cutAt_of_not_mem hequals]
      rfl
  | unknown other value hequals hunknown =>
      rw [assignments, List.filterMap_cons, assignment?, cutAt_append_separator hequals]
      simp only [Option.map_some, valueOf, List.find?_cons, hunknown key hkey, decide_false]
      rfl

/-- Segments, with others that say nothing put anywhere between them. -/
inductive Interspersed : List (List Char) → List (List Char) → Prop where
  | nil : Interspersed [] []
  | keep {segments others : List (List Char)} (segment : List Char) :
      Interspersed segments others → Interspersed (segment :: segments) (segment :: others)
  | insert {segments others : List (List Char)} {segment : List Char} :
      Idle segment → ';' ∉ segment → Interspersed segments others →
      Interspersed segments (segment :: others)

theorem Interspersed.valueOf_eq {segments others : List (List Char)}
    (h : Interspersed segments others) {key : String} (hkey : key ∈ keys) :
    valueOf key (assignments others) = valueOf key (assignments segments) := by
  induction h with
  | nil => rfl
  | insert hidle _ _ ih => rw [valueOf_idle hidle hkey, ih]
  | keep segment _ ih =>
      simp only [assignments, List.filterMap_cons] at ih ⊢
      cases assignment? segment with
      | none => exact ih
      | some found =>
          simp only [valueOf, List.find?_cons] at ih ⊢
          split
          · rfl
          · exact ih

theorem Interspersed.not_mem {segments others : List (List Char)}
    (h : Interspersed segments others) (hsegments : ∀ segment ∈ segments, ';' ∉ segment) :
    ∀ other ∈ others, ';' ∉ other := by
  induction h with
  | nil => exact hsegments
  | insert _ hsegment _ ih => exact List.forall_mem_cons.mpr ⟨hsegment, ih hsegments⟩
  | keep segment _ ih =>
      rw [List.forall_mem_cons] at hsegments ⊢
      exact ⟨hsegments.1, ih hsegments.2⟩

/-! ## Order -/

def Carries (key : String) (segment : List Char) : Prop :=
  (assignment? segment).map Prod.fst = some key.toList

instance (key : String) (segment : List Char) : Decidable (Carries key segment) :=
  inferInstanceAs (Decidable (_ = _))

theorem carries_iff {key : String} {segment : List Char} :
    Carries key segment ↔ ∃ value, assignment? segment = some (key.toList, value) := by
  simp [Carries]

theorem find?_perm {p : α → Bool} {first second : List α} (h : first.Perm second)
    (hone : first.Pairwise fun a b => ¬ (p a = true ∧ p b = true)) :
    first.find? p = second.find? p := by
  induction h with
  | nil => rfl
  | cons a _ ih => rw [List.find?_cons, List.find?_cons, ih hone.of_cons]
  | swap a b rest =>
      have hnot := List.rel_of_pairwise_cons hone (List.mem_cons_self ..)
      simp only [List.find?_cons]
      cases ha : p a <;> cases hb : p b <;> simp_all
  | trans hleft _ ihleft ihright =>
      have hone' := (hleft.pairwise_iff fun hnot hboth => hnot hboth.symm).mp hone
      rw [ihleft hone, ihright hone']

theorem valueOf_perm {segments others : List (List Char)} (h : segments.Perm others) {key : String}
    (hone : segments.Pairwise fun first second => ¬ (Carries key first ∧ Carries key second)) :
    valueOf key (assignments others) = valueOf key (assignments segments) := by
  have hassigned : (assignments segments).Pairwise fun a b =>
      ¬ (decide (a.1 = key.toList) = true ∧ decide (b.1 = key.toList) = true) := by
    refine hone.filterMap assignment? fun first second hnot a ha b hb hboth => hnot ?_
    simp only [decide_eq_true_iff] at hboth
    rw [Carries, Carries, ha, hb, Option.map_some, Option.map_some, hboth.1, hboth.2]
    exact ⟨rfl, rfl⟩
  have hfound := find?_perm (p := fun a => a.1 = key.toList) (h.filterMap assignment?) hassigned
  rw [valueOf, valueOf, assignments, assignments, hfound]

/-! ## Repeated keys -/

theorem valueOf_first {key : String} {before : List (List Char)} {first : List Char}
    (hbefore : ∀ segment ∈ before, ¬ Carries key segment) (hfirst : Carries key first)
    (after : List (List Char)) :
    valueOf key (assignments (before ++ first :: after)) = valueOf key (assignments [first]) := by
  obtain ⟨value, hvalue⟩ := carries_iff.mp hfirst
  have hnone : (assignments before).find? (·.1 = key.toList) = none := by
    refine List.find?_eq_none.mpr fun found hfound hkey => ?_
    obtain ⟨segment, hsegment, hassigned⟩ := List.mem_filterMap.mp hfound
    rw [decide_eq_true_iff] at hkey
    exact hbefore segment hsegment (by rw [Carries, hassigned, Option.map_some, hkey])
  simp only [valueOf, assignments, List.filterMap_append, List.find?_append,
    List.filterMap_cons, hvalue, List.find?_cons, decide_true]
  rw [assignments] at hnone
  rw [hnone]
  rfl

theorem agreeAt_first {key : String} (hkey : key ∈ keys) {before after : List (List Char)}
    {first : List Char} (hsegments : ∀ segment ∈ before ++ first :: after, ';' ∉ segment)
    (hbefore : ∀ segment ∈ before, ¬ Carries key segment) (hfirst : Carries key first) :
    AgreeAt key (ofSegments (before ++ first :: after)) (ofSegments [first]) ∧
      (assignment? first = some (key.toList, []) →
        AgreeAt key (ofSegments (before ++ first :: after)) default) := by
  have hsingle : ∀ segment ∈ [first], ';' ∉ segment := by
    simpa using hsegments first (by simp)
  have hvalue := valueOf_first hbefore hfirst after
  constructor
  · rw [ofSegments_eq, ofSegments_eq]
    apply agreeAt_of_field? hkey
    rw [field?_intercalate hsegments, field?_intercalate hsingle, hvalue]
  · intro hempty
    -- without segments every field is the default one
    have hdefault : (default : Song) = ofChars ([';'].intercalate []) := by decide
    rw [ofSegments_eq, hdefault]
    apply agreeAt_of_field? hkey
    rw [field?_intercalate hsegments, field?_intercalate (by simp), hvalue]
    simp [valueOf, assignments, hempty]

/-! ## Texts -/

/--
A text of segments reads as the same song when they are put in another order, as long as no two of
them have the same key of a song; when blanks are put around keys and values; and when segments
that say nothing are put between them.  Of those that have the same key, the first one decides the
field, which keeps its default if that value is empty.
-/
theorem ofSegments_respelled {segments : List (List Char)}
    (hsegments : ∀ segment ∈ segments, ';' ∉ segment) :
    (∀ others : List (List Char), segments.Perm others →
      segments.Pairwise (fun first second =>
        ∀ key ∈ keys, ¬ (Carries key first ∧ Carries key second)) →
      ofSegments others = ofSegments segments) ∧
    (∀ others : List (List Char), List.Forall₂ Respaced segments others →
      ofSegments others = ofSegments segments) ∧
    (∀ others : List (List Char), Interspersed segments others →
      ofSegments others = ofSegments segments) ∧
    ∀ key ∈ keys, ∀ (before after : List (List Char)) (first : List Char),
      segments = before ++ first :: after → (∀ segment ∈ before, ¬ Carries key segment) →
      Carries key first →
      AgreeAt key (ofSegments segments) (ofSegments [first]) ∧
        (assignment? first = some (key.toList, []) → AgreeAt key (ofSegments segments) default) := by
  refine ⟨?_, ?_, ?_, ?_⟩
  · intro others hperm hone
    have hothers : ∀ other ∈ others, ';' ∉ other := fun other hother =>
      hsegments other (hperm.mem_iff.mpr hother)
    refine ofSegments_congr hothers hsegments fun key hkey => valueOf_perm hperm ?_
    exact hone.imp fun hnot => hnot key hkey
  · intro others hspaced
    refine ofSegments_congr (not_mem_respaced hspaced hsegments) hsegments fun key _ => ?_
    rw [assignments_respaced hspaced]
  · intro others hmixed
    exact ofSegments_congr (hmixed.not_mem hsegments) hsegments fun key hkey =>
      hmixed.valueOf_eq hkey
  · rintro key hkey before after first rfl hbefore hfirst
    exact agreeAt_first hkey hsegments hbefore hfirst

theorem ofSegments_respelled_three_fields :
    let tempo := "tempo=240".toList
    let duty := "d2=1".toList
    let lead := "p1=60,-1".toList
    let segments := [tempo, duty, lead]
    let spaced := "\t tempo\n= 240".toList
    let repeated := ["d2= ".toList, tempo, duty]
    (∀ segment ∈ segments, ';' ∉ segment) ∧ (∀ segment ∈ repeated, ';' ∉ segment) ∧
      ofSegments [lead, tempo, duty] = ofSegments segments ∧
      ofSegments [spaced, duty, lead] = ofSegments segments ∧
      ofSegments ["tempo".toList, tempo, duty, "Tempo=1".toList, lead] = ofSegments segments ∧
      (ofSegments repeated).dutyIndex = (default : Song).dutyIndex := by
  intro tempo duty lead segments spaced repeated
  have hsegments : ∀ segment ∈ segments, ';' ∉ segment := by decide
  have hrepeated : ∀ segment ∈ repeated, ';' ∉ segment := by decide
  obtain ⟨horder, hspacing, hothers, -⟩ := ofSegments_respelled hsegments
  obtain ⟨-, -, -, hfirst⟩ := ofSegments_respelled hrepeated
  have hspaced : Respaced tempo spaced :=
    .around "tempo".toList "240".toList "\t ".toList "\n".toList " ".toList [] (by decide)
      (by decide) (by decide) (by decide) (by decide)
  have hunknown : Idle "Tempo=1".toList :=
    .unknown "Tempo".toList "1".toList (by decide) (by decide)
  refine ⟨hsegments, hrepeated, ?_, ?_, ?_, ?_⟩
  · exact horder _ (by decide) (by decide)
  · exact hspacing _ (.cons hspaced (.cons (.same _) (.cons (.same _) .nil)))
  · exact hothers _ (.insert (.bare (by decide)) (by decide) (.keep _ (.keep _
      (.insert hunknown (by decide) (.keep _ .nil)))))
  · exact (hfirst "d2" (by decide) [] [tempo, duty] "d2= ".toList rfl (by simp) (by decide)).2
      (by decide)

end PulseTracker.Song
