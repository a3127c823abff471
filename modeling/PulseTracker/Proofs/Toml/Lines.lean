import PulseTracker.Proofs.Toml.Escape

/-!
# Strings of several lines, read back

Quotes may stand inside such a string, so the reader looks at whole runs of them.
It closes the string at a run of three or more, the last three of which are not part
of the value.  The writer never puts more than two quotes next to each other, so a
run that reaches the closing quotes is the whole rest of the value.
-/

namespace PulseTracker.Toml

/-! ## Runs of quotes -/

variable {q : Char}

@[simp] theorem quoteRun_cons_self (text : List Char) :
    quoteRun q (q :: text) = quoteRun q text + 1 := by
  simp [quoteRun]

theorem quoteRun_cons_of_ne {c : Char} (h : c ≠ q) (text : List Char) :
    quoteRun q (c :: text) = 0 := by
  simp [quoteRun, h]

theorem cons_of_quoteRun_pos {text : List Char} (h : 0 < quoteRun q text) :
    ∃ rest, text = q :: rest := by
  cases text with
  | nil => cases h
  | cons c rest =>
      by_cases hc : c = q
      · exact ⟨rest, by rw [hc]⟩
      · rw [quoteRun_cons_of_ne hc] at h
        cases h

def OnlyQuotes (q : Char) (text : List Char) : Prop := quoteRun q text = text.length

theorem OnlyQuotes.head {c : Char} {text : List Char} (h : OnlyQuotes q (c :: text)) :
    c = q := by
  by_cases hc : c = q
  · exact hc
  · simp [OnlyQuotes, quoteRun_cons_of_ne hc] at h

theorem OnlyQuotes.tail {c : Char} {text : List Char} (h : OnlyQuotes q (c :: text)) :
    OnlyQuotes q text := by
  obtain rfl := h.head
  simpa [OnlyQuotes] using h

theorem OnlyQuotes.eq_replicate {text : List Char} (h : OnlyQuotes q text) :
    text = List.replicate text.length q := by
  induction text with
  | nil => rfl
  | cons c text ih => rw [List.length_cons, List.replicate_succ, ← ih h.tail, h.head]

theorem quoteRun_append_of_only {text : List Char} (h : OnlyQuotes q text) (rest : List Char) :
    quoteRun q (text ++ rest) = text.length + quoteRun q rest := by
  unfold OnlyQuotes quoteRun at h
  simp [quoteRun, List.takeWhile_append, h]

theorem quoteRun_append_of_not_only {text : List Char} (h : ¬ OnlyQuotes q text)
    (rest : List Char) : quoteRun q (text ++ rest) = quoteRun q text := by
  unfold OnlyQuotes quoteRun at h
  simp [quoteRun, List.takeWhile_append, h]

/-! ## The end of a string -/

def closing (q : Char) (rest : List Char) : List Char := q :: q :: q :: '\n' :: rest

theorem quoteRun_closing (hq : q ≠ '\n') (rest : List Char) :
    quoteRun q (closing q rest) = 3 := by
  simp [closing, quoteRun_cons_of_ne hq.symm]

theorem closes_or_goes_on (hq : q ≠ '\n') {text : List Char} (h : quoteRun q text ≤ 2)
    (rest : List Char) :
    (OnlyQuotes q text ∧ 3 ≤ quoteRun q (text ++ closing q rest) ∧
      closeLines q (text ++ closing q rest) = (text, '\n' :: rest)) ∨
      quoteRun q (text ++ closing q rest) < 3 := by
  by_cases honly : OnlyQuotes q text
  · have hrun : quoteRun q (text ++ closing q rest) = text.length + 3 := by
      rw [quoteRun_append_of_only honly, quoteRun_closing hq]
    have hinside : min 2 (text.length + 3 - 3) = text.length := by
      unfold OnlyQuotes at honly
      omega
    have hrest : (text ++ closing q rest).drop (text.length + 3) = '\n' :: rest := by
      rw [← List.drop_drop, List.drop_left]
      rfl
    refine Or.inl ⟨honly, by omega, ?_⟩
    rw [closeLines, hrun, hinside, hrest, ← honly.eq_replicate]
  · rw [quoteRun_append_of_not_only honly]
    exact Or.inr (by omega)

/-! ## Basic strings -/

/-- How a character is written behind a run of quotes, and the run behind it. -/
inductive WrittenAs : Nat → Char → List Char → Nat → Prop where
  | quote {run : Nat} (h : run < 2) : WrittenAs run doubleQuote [doubleQuote] (run + 1)
  | newline {run : Nat} : WrittenAs run '\n' ['\n'] 0
  | plain {run : Nat} {c : Char} (hquote : c ≠ doubleQuote) (hslash : c ≠ '\\')
      (hnewline : c ≠ '\n') (hcontrol : isControl c = false) : WrittenAs run c [c] 0
  | code {run : Nat} {c : Char} {code : List Char} (h : Code code c) :
      WrittenAs run c ('\\' :: code) 0

theorem WrittenAs.next_le {run next : Nat} {c : Char} {piece : List Char}
    (h : WrittenAs run c piece next) : next ≤ 2 := by
  cases h with
  | quote h => omega
  | newline | plain | code => decide

theorem escapedLines_cons {run : Nat} (hrun : run ≤ 2) (c : Char) (text : List Char) :
    ∃ piece next, WrittenAs run c piece next ∧
      escapedLines run (c :: text) = piece ++ escapedLines next text := by
  simp only [escapedLines]
  split
  · rename_i hquote
    subst hquote
    split
    · exact ⟨_, 0, .code quote_code, rfl⟩
    · exact ⟨_, run + 1, .quote (by omega), rfl⟩
  · rename_i hquote
    split
    · rename_i hnewline
      subst hnewline
      exact ⟨_, 0, .newline, rfl⟩
    · rename_i hnewline
      rcases escapeControl_cases c with ⟨hwritten, hslash, hcontrol⟩ | ⟨code, hwritten, hcode⟩
      · exact ⟨[c], 0, .plain hquote hslash hnewline hcontrol, by rw [hwritten]⟩
      · exact ⟨_, 0, .code hcode, by rw [hwritten]⟩

theorem quoteRun_escapedLines (text : List Char) {run : Nat} (hrun : run ≤ 2) :
    run + quoteRun doubleQuote (escapedLines run text) ≤ 2 := by
  induction text generalizing run with
  | nil => exact hrun
  | cons c text ih =>
      obtain ⟨piece, next, hpiece, hwritten⟩ := escapedLines_cons hrun c text
      have hrest := ih hpiece.next_le
      rw [hwritten]
      cases hpiece with
      | quote h =>
          rw [List.singleton_append, quoteRun_cons_self]
          omega
      | newline =>
          rw [List.singleton_append, quoteRun_cons_of_ne (by decide)]
          exact hrun
      | plain hquote =>
          rw [List.singleton_append, quoteRun_cons_of_ne hquote]
          exact hrun
      | code =>
          rw [List.cons_append, quoteRun_cons_of_ne (by decide)]
          exact hrun

theorem OnlyQuotes.escapedLines {text : List Char} {run : Nat} (hrun : run ≤ 2)
    (h : OnlyQuotes doubleQuote (escapedLines run text)) : escapedLines run text = text := by
  induction text generalizing run with
  | nil => rfl
  | cons c text ih =>
      obtain ⟨piece, next, hpiece, hwritten⟩ := escapedLines_cons hrun c text
      rw [hwritten] at h ⊢
      cases hpiece with
      | quote hnext =>
          rw [List.singleton_append, ih hnext h.tail]
      | newline => exact absurd h.head (by decide)
      | plain hquote => exact absurd h.head hquote
      | code => exact absurd h.head (by decide)

theorem readBasicLines_close {text : List Char} (h : 3 ≤ quoteRun doubleQuote text)
    (fuel : Nat) :
    readBasicLines (fuel + 1) text = some (closeLines doubleQuote text) := by
  obtain ⟨rest, rfl⟩ := cons_of_quoteRun_pos (Nat.zero_lt_of_lt h)
  rw [readBasicLines, if_pos rfl, if_pos h]

theorem newline?_of_ne {c : Char} (hnewline : c ≠ '\n') (hreturn : c ≠ '\r')
    (text : List Char) : newline? (c :: text) = none := by
  simp [newline?, hnewline, hreturn]

theorem ne_return_of_not_isControl {c : Char} (h : isControl c = false) : c ≠ '\r' := by
  intro hc
  subst hc
  cases h

/-- One written character is read back, unless the closing quotes are in reach. -/
theorem WrittenAs.read {run next : Nat} {c : Char} {piece : List Char}
    (h : WrittenAs run c piece next) (fuel : Nat) {rest : List Char}
    (hopen : quoteRun doubleQuote (piece ++ rest) < 3) :
    readBasicLines (fuel + 1) (piece ++ rest) = Reading.push c (readBasicLines fuel rest) := by
  cases h with
  | quote =>
      rw [List.singleton_append] at hopen ⊢
      rw [readBasicLines, if_pos rfl, if_neg (by omega)]
  | newline => rfl
  | plain hquote hslash hnewline hcontrol =>
      have hline := newline?_of_ne hnewline (ne_return_of_not_isControl hcontrol) rest
      simp [readBasicLines, hquote, hslash, hline, hcontrol]
  | code h =>
      have hquote : '\\' ≠ doubleQuote := by decide
      simp [readBasicLines, hquote, h.inLine, h.reads]

theorem WrittenAs.piece_length_pos {run next : Nat} {c : Char} {piece : List Char}
    (h : WrittenAs run c piece next) : 0 < piece.length := by
  cases h with
  | quote | newline | plain | code => exact Nat.succ_pos _

theorem readBasicLines_escapedLines (text rest : List Char) {run fuel : Nat} (hrun : run ≤ 2)
    (hfuel : (escapedLines run text).length < fuel) :
    readBasicLines fuel (escapedLines run text ++ closing doubleQuote rest) =
      some (text, '\n' :: rest) := by
  have hquote : doubleQuote ≠ '\n' := by decide
  induction text generalizing run fuel with
  | nil =>
      cases fuel with
      | zero => cases hfuel
      | succ fuel => rfl
  | cons c text ih =>
      cases fuel with
      | zero => cases hfuel
      | succ fuel =>
          have hquotes := quoteRun_escapedLines (c :: text) hrun
          rcases closes_or_goes_on hquote (Nat.le_of_add_left_le hquotes) rest with
            ⟨honly, hthree, hclose⟩ | hopen
          · rw [readBasicLines_close hthree, hclose, honly.escapedLines hrun]
          · obtain ⟨piece, next, hpiece, hwritten⟩ := escapedLines_cons hrun c text
            have hpos := hpiece.piece_length_pos
            rw [hwritten, List.length_append] at hfuel
            rw [hwritten, List.append_assoc] at hopen ⊢
            rw [hpiece.read fuel hopen, ih hpiece.next_le (by omega), Reading.push_some]

theorem readBasicLines_whole (text rest : List Char) :
    let written := escapedLines 0 text ++ closing doubleQuote rest
    readBasicLines (written.length + 1) written = some (text, '\n' :: rest) := by
  apply readBasicLines_escapedLines text rest (Nat.zero_le 2)
  rw [List.length_append]
  omega

/-! ## Literal strings -/

theorem hasTriple_tail {c : Char} {text : List Char} (h : hasTriple q (c :: text) = false) :
    hasTriple q text = false := by
  cases text with
  | nil => rfl
  | cons d text =>
      cases text with
      | nil => rfl
      | cons e text =>
          simp only [hasTriple, Bool.or_eq_false_iff] at h
          exact h.2

theorem quoteRun_of_not_hasTriple {text : List Char} (h : hasTriple q text = false) :
    quoteRun q text ≤ 2 := by
  match text with
  | [] => exact Nat.zero_le 2
  | [c] => exact Nat.le_trans (List.takeWhile_sublist _).length_le (Nat.le_succ 1)
  | [c, d] => exact (List.takeWhile_sublist _).length_le
  | c :: d :: e :: text =>
      by_cases hc : c = q
      · by_cases hd : d = q
        · have he : e ≠ q := by
            intro he
            simp [hasTriple, hc, hd, he] at h
          simp [hc, hd, quoteRun_cons_of_ne he]
        · simp [hc, quoteRun_cons_of_ne hd]
      · simp [quoteRun_cons_of_ne hc]

theorem readLiteralLines_close {text : List Char} (h : 3 ≤ quoteRun singleQuote text)
    (fuel : Nat) :
    readLiteralLines (fuel + 1) text = some (closeLines singleQuote text) := by
  obtain ⟨rest, rfl⟩ := cons_of_quoteRun_pos (Nat.zero_lt_of_lt h)
  rw [readLiteralLines, if_pos rfl, if_pos h]

theorem isControl_of_not_isLineControl {c : Char} (h : isLineControl c = false)
    (hnewline : c ≠ '\n') : isControl c = false := by
  simpa [isLineControl, hnewline] using h

theorem newline?_of_not_isLineControl {c : Char} (h : isLineControl c = false)
    (hnewline : c ≠ '\n') (text : List Char) : newline? (c :: text) = none :=
  newline?_of_ne hnewline
    (ne_return_of_not_isControl (isControl_of_not_isLineControl h hnewline)) text

theorem readLiteralLines_cons {c : Char} (h : isLineControl c = false) (fuel : Nat)
    {rest : List Char} (hopen : quoteRun singleQuote (c :: rest) < 3) :
    readLiteralLines (fuel + 1) (c :: rest) = Reading.push c (readLiteralLines fuel rest) := by
  by_cases hquote : c = singleQuote
  · subst hquote
    rw [readLiteralLines, if_pos rfl, if_neg (by omega)]
  · by_cases hnewline : c = '\n'
    · subst hnewline
      rfl
    · simp [readLiteralLines, hquote, newline?_of_not_isLineControl h hnewline,
        isControl_of_not_isLineControl h hnewline]

theorem readLiteralLines_append {text : List Char} (hplain : ∀ c ∈ text, isLineControl c = false)
    (htriple : hasTriple singleQuote text = false) (rest : List Char) {fuel : Nat}
    (hfuel : text.length < fuel) :
    readLiteralLines fuel (text ++ closing singleQuote rest) = some (text, '\n' :: rest) := by
  have hquote : singleQuote ≠ '\n' := by decide
  induction text generalizing fuel with
  | nil =>
      cases fuel with
      | zero => cases hfuel
      | succ fuel => rfl
  | cons c text ih =>
      cases fuel with
      | zero => cases hfuel
      | succ fuel =>
          have hquotes := quoteRun_of_not_hasTriple htriple
          rcases closes_or_goes_on hquote hquotes rest with ⟨-, hthree, hclose⟩ | hopen
          · rw [readLiteralLines_close hthree, hclose]
          · have hrest := ih (fun d hd => hplain d (List.mem_cons_of_mem c hd))
              (hasTriple_tail htriple) (Nat.lt_of_succ_lt_succ hfuel)
            rw [List.cons_append] at hopen ⊢
            rw [readLiteralLines_cons (hplain c List.mem_cons_self) fuel hopen, hrest,
              Reading.push_some]

theorem readLiteralLines_whole {text : List Char}
    (hplain : ∀ c ∈ text, isLineControl c = false)
    (htriple : hasTriple singleQuote text = false) (rest : List Char) :
    let written := text ++ closing singleQuote rest
    readLiteralLines (written.length + 1) written = some (text, '\n' :: rest) := by
  apply readLiteralLines_append hplain htriple rest
  rw [List.length_append]
  omega

/-! ## The first line -/

theorem onLines_append (value written rest : List Char) :
    onLines value written ++ rest = onLines value (written ++ rest) := by
  unfold onLines
  split <;> rfl

theorem skipFirstNewline_onLines {value written : List Char}
    (h : '\n' ∉ value → newline? written = none) :
    skipFirstNewline (onLines value written) = written := by
  by_cases hvalue : '\n' ∈ value
  · simp [onLines, hvalue, skipFirstNewline, newline?]
  · simp [onLines, hvalue, skipFirstNewline, h hvalue]

theorem newline?_escapedLines {value : List Char} (h : '\n' ∉ value) (rest : List Char) :
    newline? (escapedLines 0 value ++ closing doubleQuote rest) = none := by
  cases value with
  | nil => rfl
  | cons c value =>
      obtain ⟨piece, next, hpiece, hwritten⟩ := escapedLines_cons (Nat.zero_le 2) c value
      rw [hwritten]
      cases hpiece with
      | quote | code => exact newline?_of_ne (by decide) (by decide) _
      | newline => exact absurd List.mem_cons_self h
      | plain hquote hslash hnewline hcontrol =>
          exact newline?_of_ne hnewline (ne_return_of_not_isControl hcontrol) _

theorem newline?_literal {value : List Char} (hplain : ∀ c ∈ value, isLineControl c = false)
    (h : '\n' ∉ value) (rest : List Char) :
    newline? (value ++ closing singleQuote rest) = none := by
  cases value with
  | nil => rfl
  | cons c value =>
      have hnewline : c ≠ '\n' := by
        intro hc
        subst hc
        exact h List.mem_cons_self
      exact newline?_of_not_isLineControl (hplain c List.mem_cons_self) hnewline _

end PulseTracker.Toml
