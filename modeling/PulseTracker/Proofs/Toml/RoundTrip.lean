import PulseTracker.Proofs.Toml.Lines

/-!
# Tables, read back

Every table is read back from the text it is written as.  Keys and values take one
of several forms; which one is a matter of the characters in them, and what holds of
these characters is all that reading the form asks for.
-/

namespace PulseTracker.Toml

variable {q : Char}

/-! ## Forms -/

theorem between_append (text rest : List Char) :
    between [q] text ++ rest = q :: (text ++ q :: rest) := by
  simp [between]

theorem between_lines_append (text rest : List Char) :
    between [q, q, q] text ++ '\n' :: rest = q :: q :: q :: (text ++ closing q rest) := by
  simp [between, closing]

theorem singleQuote_ne : singleQuote ≠ doubleQuote := by
  decide

/-! ## Keys -/

theorem readKey_basicForm (key rest : List Char) :
    readKey (basicForm key ++ rest) = some (key, rest) := by
  rw [basicForm, between_append, readKey, if_pos rfl]
  exact readBasic_whole key rest

theorem readKey_literalForm {key : List Char}
    (h : ∀ c ∈ key, isControl c = false ∧ c ≠ singleQuote) (rest : List Char) :
    readKey (literalForm key ++ rest) = some (key, rest) := by
  rw [literalForm, between_append, readKey, if_neg singleQuote_ne, if_pos rfl]
  exact readLiteral_append rest h

theorem readKey_bare {key : List Char} (hne : key ≠ [])
    (h : ∀ c ∈ key, isBareKeyChar c = true) (rest : List Char) :
    readKey (key ++ ' ' :: rest) = some (key, ' ' :: rest) := by
  have hkey : (key ++ ' ' :: rest).takeWhile isBareKeyChar = key := by
    rw [List.takeWhile_append_of_pos h]
    simp [isBareKeyChar]
  have hrest : (key ++ ' ' :: rest).dropWhile isBareKeyChar = ' ' :: rest := by
    rw [List.dropWhile_append_of_pos h]
    simp [isBareKeyChar]
  cases key with
  | nil => exact absurd rfl hne
  | cons c key =>
      have hc := h c List.mem_cons_self
      have hdouble : c ≠ doubleQuote := by
        intro heq
        subst heq
        exact absurd hc (by decide)
      have hsingle : c ≠ singleQuote := by
        intro heq
        subst heq
        exact absurd hc (by decide)
      rw [List.cons_append] at hkey hrest ⊢
      rw [readKey, if_neg hdouble, if_neg hsingle, if_pos hc, hkey, hrest]

theorem readKey_keyChars (key rest : List Char) :
    readKey (keyChars key ++ ' ' :: rest) = some (key, ' ' :: rest) := by
  unfold keyChars
  split
  · rename_i hbare
    simp only [Bool.and_eq_true, Bool.not_eq_true', List.isEmpty_eq_false_iff,
      List.all_eq_true] at hbare
    exact readKey_bare hbare.1 hbare.2 rest
  split
  · exact readKey_basicForm key _
  split
  · rename_i hliteral
    exact readKey_literalForm (by simpa using hliteral) _
  · exact readKey_basicForm key _

/-! ## Values -/

theorem quoteRun_oneLine {written : List Char} (hhead : written.head? ≠ some q) (hq : q ≠ '\n')
    (rest : List Char) : quoteRun q (q :: (written ++ q :: '\n' :: rest)) < 3 := by
  cases written with
  | nil => simp [quoteRun_cons_of_ne hq.symm]
  | cons c written =>
      have hc : c ≠ q := by simpa using hhead
      simp [quoteRun_cons_of_ne hc]

theorem head?_escapedLine (text : List Char) :
    (escapedLine text).head? ≠ some doubleQuote := by
  cases text with
  | nil => simp [escapedLine]
  | cons c text =>
      have hbackslash : '\\' ≠ doubleQuote := by decide
      rw [escapedLine_cons, escapeBasic]
      split
      · simp [hbackslash]
      · rename_i hquote
        rcases escapeControl_cases c with ⟨hwritten, -, -⟩ | ⟨code, hwritten, -⟩
        · simp [hwritten, hquote]
        · simp [hwritten, hbackslash]

theorem readValue_basicForm (value rest : List Char) :
    readValue (basicForm value ++ '\n' :: rest) = some (value, '\n' :: rest) := by
  have hrun := quoteRun_oneLine (head?_escapedLine value) (by decide) rest
  rw [basicForm, between_append, readValue, if_pos rfl, if_neg (by omega)]
  exact readBasic_whole value _

theorem readValue_literalForm {value : List Char}
    (h : ∀ c ∈ value, isControl c = false ∧ c ≠ singleQuote) (rest : List Char) :
    readValue (literalForm value ++ '\n' :: rest) = some (value, '\n' :: rest) := by
  have hhead : value.head? ≠ some singleQuote := fun hq => (h _ (List.mem_of_head? hq)).2 rfl
  have hrun := quoteRun_oneLine hhead (by decide) rest
  rw [literalForm, between_append, readValue, if_neg singleQuote_ne, if_pos rfl,
    if_neg (by omega)]
  exact readLiteral_append _ h

theorem three_le_quoteRun (text : List Char) : 3 ≤ quoteRun q (q :: q :: q :: text) := by
  simp

theorem readValue_basicLinesForm (value rest : List Char) :
    readValue (basicLinesForm value ++ '\n' :: rest) = some (value, '\n' :: rest) := by
  have hbody : skipFirstNewline
      (onLines value (escapedLines 0 value ++ closing doubleQuote rest)) =
        escapedLines 0 value ++ closing doubleQuote rest :=
    skipFirstNewline_onLines fun h => newline?_escapedLines h rest
  rw [basicLinesForm, between_lines_append, onLines_append, readValue, if_pos rfl,
    if_pos (three_le_quoteRun _)]
  simp only [List.drop_succ_cons, List.drop_zero, hbody]
  exact readBasicLines_whole value rest

theorem readValue_literalLinesForm {value : List Char}
    (hplain : ∀ c ∈ value, isLineControl c = false)
    (htriple : hasTriple singleQuote value = false) (rest : List Char) :
    readValue (literalLinesForm value ++ '\n' :: rest) = some (value, '\n' :: rest) := by
  have hbody : skipFirstNewline (onLines value (value ++ closing singleQuote rest)) =
      value ++ closing singleQuote rest :=
    skipFirstNewline_onLines fun h => newline?_literal hplain h rest
  rw [literalLinesForm, between_lines_append, onLines_append, readValue,
    if_neg singleQuote_ne, if_pos rfl, if_pos (three_le_quoteRun _)]
  simp only [List.drop_succ_cons, List.drop_zero, hbody]
  exact readLiteralLines_whole hplain htriple rest

theorem readValue_valueChars (value rest : List Char) :
    readValue (valueChars value ++ '\n' :: rest) = some (value, '\n' :: rest) := by
  unfold valueChars
  split
  · exact readValue_basicForm value rest
  split
  · rename_i hliteral
    exact readValue_literalForm (by simpa using hliteral) rest
  split
  · exact readValue_basicLinesForm value rest
  split
  · rename_i hlines
    simp only [Bool.and_eq_true, Bool.not_eq_true', List.any_eq_false, Bool.not_eq_true] at hlines
    exact readValue_literalLinesForm hlines.1 hlines.2 rest
  split
  · exact readValue_basicLinesForm value rest
  · exact readValue_basicForm value rest

/-! ## Entries -/

def startsForm (c : Char) : Bool := isBareKeyChar c || c = doubleQuote || c = singleQuote

theorem ne_of_startsForm {c d : Char} (hc : startsForm c = true) (hd : startsForm d = false) :
    c ≠ d := by
  intro h
  rw [← h, hc] at hd
  cases hd

theorem keyChars_start (key : List Char) :
    ∃ c rest, keyChars key = c :: rest ∧ startsForm c = true := by
  unfold keyChars
  split
  · rename_i hbare
    cases key with
    | nil => simp at hbare
    | cons c key =>
        have hc : isBareKeyChar c = true := by
          simp at hbare
          exact hbare.1
        exact ⟨c, key, rfl, by simp [startsForm, hc]⟩
  split
  · exact ⟨doubleQuote, _, rfl, rfl⟩
  split
  · exact ⟨singleQuote, _, rfl, rfl⟩
  · exact ⟨doubleQuote, _, rfl, rfl⟩

theorem valueChars_start (value : List Char) :
    ∃ c rest, valueChars value = c :: rest ∧ startsForm c = true := by
  unfold valueChars
  split
  · exact ⟨doubleQuote, _, rfl, rfl⟩
  split
  · exact ⟨singleQuote, _, rfl, rfl⟩
  split
  · exact ⟨doubleQuote, _, rfl, rfl⟩
  split
  · exact ⟨singleQuote, _, rfl, rfl⟩
  split
  · exact ⟨doubleQuote, _, rfl, rfl⟩
  · exact ⟨doubleQuote, _, rfl, rfl⟩

theorem skipBlanks_of_start {c : Char} (h : startsForm c = true) (rest : List Char) :
    skipBlanks (c :: rest) = c :: rest := by
  have hspace : c ≠ ' ' := ne_of_startsForm h (by decide)
  have htab : c ≠ '\t' := ne_of_startsForm h (by decide)
  simp [skipBlanks, isBlank, hspace, htab]

theorem readEntry_entryChars (entry : String × String) (rest : List Char) :
    readEntry (entryChars entry ++ rest) = some (entry, rest) := by
  have htext : entryChars entry ++ rest =
      keyChars entry.1.toList ++ ' ' :: ('=' :: ' ' ::
        (valueChars entry.2.toList ++ '\n' :: rest)) := by
    simp [entryChars]
  have hvalue : skipBlanks (' ' :: (valueChars entry.2.toList ++ '\n' :: rest)) =
      valueChars entry.2.toList ++ '\n' :: rest := by
    obtain ⟨c, chars, hchars, hc⟩ := valueChars_start entry.2.toList
    rw [hchars]
    exact skipBlanks_of_start hc _
  have hequals : ∀ text, skipBlanks (' ' :: '=' :: text) = '=' :: text := fun _ => rfl
  have hline : restOfLine ('\n' :: rest) = some rest := rfl
  rw [htext, readEntry, readKey_keyChars]
  simp only [Option.bind_some, hequals, hvalue, readValue_valueChars, hline, Option.map_some,
    String.ofList_toList]

theorem entryChars_start (entry : String × String) :
    ∃ c rest, entryChars entry = c :: rest ∧ startsForm c = true := by
  obtain ⟨c, chars, hchars, hc⟩ := keyChars_start entry.1.toList
  exact ⟨c, _, by rw [entryChars, hchars]; rfl, hc⟩

theorem readEntries_flatMap (entries : List (String × String)) {fuel : Nat}
    (hfuel : (entries.flatMap entryChars).length < fuel) :
    readEntries fuel (entries.flatMap entryChars) = some entries := by
  induction entries generalizing fuel with
  | nil =>
      cases fuel with
      | zero => cases hfuel
      | succ fuel => rfl
  | cons entry entries ih =>
      have hentry := readEntry_entryChars entry (entries.flatMap entryChars)
      obtain ⟨c, chars, hchars, hc⟩ := entryChars_start entry
      have hcomment : c ≠ '#' := ne_of_startsForm hc (by decide)
      have hnewline := newline?_of_ne (ne_of_startsForm hc (by decide))
        (ne_of_startsForm hc (by decide)) (chars ++ entries.flatMap entryChars)
      cases fuel with
      | zero => cases hfuel
      | succ fuel =>
          rw [List.flatMap_cons, hchars, List.length_append, List.length_cons] at hfuel
          rw [hchars, List.cons_append] at hentry
          have hrest := ih (show (entries.flatMap entryChars).length < fuel by omega)
          rw [List.flatMap_cons, hchars, List.cons_append, readEntries,
            skipBlanks_of_start hc]
          simp [hcomment, hnewline, hentry, hrest]

/-! ## Tables -/

theorem insertEntry_of_lt {key : String} {entries : List (String × String)} (value : String)
    (h : ∀ entry ∈ entries, entry.1 < key) :
    insertEntry key value entries = entries ++ [(key, value)] := by
  induction entries with
  | nil => rfl
  | cons entry entries ih =>
      have hlt := h entry List.mem_cons_self
      have hrest := ih fun other hother => h other (List.mem_cons_of_mem entry hother)
      rw [insertEntry, if_neg (String.lt_asymm hlt), if_neg (String.ne_of_lt hlt).symm, hrest]
      rfl

theorem get?_eq_none_of_lt {key : String} {table : Table}
    (h : ∀ entry ∈ table.entries, entry.1 < key) : table.get? key = none := by
  rw [Table.get?, List.lookup_eq_none_iff]
  intro entry hentry
  exact bne_iff_ne.2 (String.ne_of_lt (h entry hentry)).symm

theorem collect_append {entries : List (String × String)} {table whole : Table}
    (h : whole.entries = table.entries ++ entries) : collect entries table = some whole := by
  induction entries generalizing table with
  | nil =>
      cases whole
      cases table
      rw [List.append_nil] at h
      cases h
      rfl
  | cons entry entries ih =>
      have hsorted := whole.sorted
      rw [h, List.pairwise_append] at hsorted
      have hlt : ∀ other ∈ table.entries, other.1 < entry.1 := fun other hother =>
        hsorted.2.2 other hother entry List.mem_cons_self
      rw [collect, get?_eq_none_of_lt hlt, Option.isSome_none, if_neg Bool.false_ne_true]
      have hinsert : (table.insert entry.1 entry.2).entries = table.entries ++ [entry] :=
        insertEntry_of_lt entry.2 hlt
      apply ih
      rw [hinsert, List.append_assoc]
      exact h

theorem skipMark_of_start {c : Char} (h : startsForm c = true) (rest : List Char) :
    skipMark (c :: rest) = c :: rest :=
  if_neg (ne_of_startsForm h (by decide))

theorem skipMark_flatMap (entries : List (String × String)) :
    skipMark (entries.flatMap entryChars) = entries.flatMap entryChars := by
  cases entries with
  | nil => rfl
  | cons entry entries =>
      obtain ⟨c, chars, hchars, hc⟩ := entryChars_start entry
      rw [List.flatMap_cons, hchars]
      exact skipMark_of_start hc _

theorem readChars_tableChars (table : Table) : readChars (tableChars table) = some table := by
  have hentries := readEntries_flatMap table.entries (Nat.lt_succ_self _)
  simp only [readChars, tableChars, skipMark_flatMap, hentries, Option.bind_some]
  exact collect_append rfl

theorem read?_write (table : Table) : read? (write table) = some table := by
  rw [read?, write, String.toList_ofList, readChars_tableChars]

end PulseTracker.Toml
