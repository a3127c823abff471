import PulseTracker.Toml.Reader
import PulseTracker.Toml.Writer

/-!
# Strings of one line, read back

A written character is the character itself or a backslash and a code, and the
reader takes one written character at a time.
-/

namespace PulseTracker.Toml

/-! ## Escapes -/

structure Code (code : List Char) (c : Char) : Prop where
  reads : ∀ rest, readEscape (code ++ rest) = some (c, rest)
  inLine : ∀ rest, escapedLineEnd (code ++ rest) = none

theorem scalar?_toNat (c : Char) : scalar? c.toNat = some c :=
  dif_pos c.valid

theorem hexNumber?_hexDigits : ∀ n < 128,
    hexNumber? ['0', '0', hexDigit (n / 16), hexDigit (n % 16)] = some n := by
  decide

theorem toNat_lt_of_isControl {c : Char} (h : isControl c = true) : c.toNat < 128 := by
  simp only [isControl, Bool.or_eq_true, Bool.and_eq_true, decide_eq_true_eq] at h
  rcases h with ⟨hlow, -⟩ | hdelete
  · omega
  · rw [hdelete]
    decide

theorem escapedLineEnd_cons {c : Char} (rest : List Char) (hblank : isBlank c = false)
    (hnewline : c ≠ '\n') (hreturn : c ≠ '\r') : escapedLineEnd (c :: rest) = none := by
  simp [escapedLineEnd, skipBlanks, hblank, newline?, hnewline, hreturn]

theorem named_code {name c : Char} (hname : namedEscape? name = some c)
    (hsmall : name ≠ 'u') (hlarge : name ≠ 'U') (hblank : isBlank name = false)
    (hnewline : name ≠ '\n') (hreturn : name ≠ '\r') : Code [name] c where
  reads rest := by simp [readEscape, hname, hsmall, hlarge]
  inLine rest := escapedLineEnd_cons rest hblank hnewline hreturn

theorem quote_code : Code [doubleQuote] doubleQuote := by
  apply named_code <;> decide

theorem numbered_code {c : Char} (h : isControl c = true) :
    Code ['u', '0', '0', hexDigit (c.toNat / 16), hexDigit (c.toNat % 16)] c where
  reads rest := by
    have hnumber := hexNumber?_hexDigits c.toNat (toNat_lt_of_isControl h)
    simp [readEscape, numberedEscape, hnumber, scalar?_toNat]
  inLine rest := escapedLineEnd_cons _ (by decide) (by decide) (by decide)

theorem escapeControl_cases (c : Char) :
    (escapeControl c = [c] ∧ c ≠ '\\' ∧ isControl c = false) ∨
      ∃ code, escapeControl c = '\\' :: code ∧ Code code c := by
  unfold escapeControl
  split
  · subst c
    exact Or.inr ⟨['b'], rfl, by apply named_code <;> decide⟩
  split
  · subst c
    exact Or.inr ⟨['t'], rfl, by apply named_code <;> decide⟩
  split
  · subst c
    exact Or.inr ⟨['n'], rfl, by apply named_code <;> decide⟩
  split
  · subst c
    exact Or.inr ⟨['f'], rfl, by apply named_code <;> decide⟩
  split
  · subst c
    exact Or.inr ⟨['r'], rfl, by apply named_code <;> decide⟩
  split
  · subst c
    exact Or.inr ⟨['\\'], rfl, by apply named_code <;> decide⟩
  · rename_i hslash
    cases hcontrol : isControl c with
    | true => exact Or.inr ⟨_, rfl, numbered_code hcontrol⟩
    | false => exact Or.inl ⟨rfl, hslash, rfl⟩

/-! ## Basic strings -/

@[simp] theorem Reading.push_some (c : Char) (text rest : List Char) :
    Reading.push c (some (text, rest)) = some (c :: text, rest) := rfl

def escapeBasic (c : Char) : List Char :=
  if c = doubleQuote then ['\\', doubleQuote] else escapeControl c

theorem escapedLine_cons (c : Char) (text : List Char) :
    escapedLine (c :: text) = escapeBasic c ++ escapedLine text := rfl

theorem readBasic_escapeBasic (c : Char) (fuel : Nat) (rest : List Char) :
    readBasic (fuel + 1) (escapeBasic c ++ rest) = Reading.push c (readBasic fuel rest) := by
  have hbackslash : '\\' ≠ doubleQuote := by decide
  unfold escapeBasic
  split
  · subst c
    have hread : readEscape (doubleQuote :: rest) = some (doubleQuote, rest) :=
      quote_code.reads rest
    simp [readBasic, hbackslash, hread]
  · rename_i hquote
    rcases escapeControl_cases c with ⟨hwritten, hslash, hcontrol⟩ | ⟨code, hwritten, hcode⟩
    · simp [hwritten, readBasic, hquote, hslash, hcontrol]
    · simp [hwritten, readBasic, hbackslash, hcode.reads]

theorem escapeBasic_length_pos (c : Char) : 0 < (escapeBasic c).length := by
  unfold escapeBasic
  split
  · decide
  · rcases escapeControl_cases c with ⟨hwritten, -, -⟩ | ⟨code, hwritten, -⟩
    · simp [hwritten]
    · simp [hwritten]

theorem readBasic_escapedLine (text rest : List Char) {fuel : Nat}
    (hfuel : (escapedLine text).length < fuel) :
    readBasic fuel (escapedLine text ++ doubleQuote :: rest) = some (text, rest) := by
  induction text generalizing fuel with
  | nil =>
      cases fuel with
      | zero => cases hfuel
      | succ fuel => simp [escapedLine, readBasic]
  | cons c text ih =>
      rw [escapedLine_cons] at hfuel ⊢
      have hpos := escapeBasic_length_pos c
      rw [List.length_append] at hfuel
      cases fuel with
      | zero => cases hfuel
      | succ fuel =>
          rw [List.append_assoc, readBasic_escapeBasic, ih (by omega), Reading.push_some]

theorem readBasic_whole (text rest : List Char) :
    let written := escapedLine text ++ doubleQuote :: rest
    readBasic (written.length + 1) written = some (text, rest) := by
  apply readBasic_escapedLine
  rw [List.length_append]
  omega

/-! ## Literal strings -/

theorem readLiteral_append {text : List Char} (rest : List Char)
    (h : ∀ c ∈ text, isControl c = false ∧ c ≠ singleQuote) :
    readLiteral (text ++ singleQuote :: rest) = some (text, rest) := by
  induction text with
  | nil => simp [readLiteral]
  | cons c text ih =>
      obtain ⟨hcontrol, hquote⟩ := h c List.mem_cons_self
      have hrest := ih fun d hd => h d (List.mem_cons_of_mem c hd)
      simp [readLiteral, hquote, hcontrol, hrest]

end PulseTracker.Toml
