import Mathlib
import NumScript.Proofs.Token.Factorization

/-!
# Scanning one script after another

Two scripts are written one after the other, with nothing between them. A scan of the whole finds the
tokens of the first and then those of the second, with all offsets moved by the length of the first,
provided that no lexeme reaches over the seam. A lexeme can do so only if the first script ends with
it and it is not a plain character: `a` and `b` would make one name, `<` and `=` one operator. So a
first script whose last token closes a statement is safe (`scan_append`).

A number with a point behind it is another danger, because a digit may follow; but there the scan of
the first script would have stopped at the point.
-/

namespace NumScript

/-! ## 1. One lexeme before more text -/

/-- The tokens that a statement can end with. -/
def Token.Closing (token : Token) : Prop := token = .mark .semicolon ∨ token = .mark .rightBrace

/-- The same lexeme with more text behind it. -/
def Lexeme.before (more : List Char) (lexeme : Lexeme) : Lexeme :=
  ⟨lexeme.token, lexeme.text, lexeme.rest ++ more⟩

section Seam

variable {c : Char} {cs rest : List Char}

theorem dropWhile_append_of_stopped {p : Char → Bool} (stopped : cs.dropWhile p = c :: rest)
    (more : List Char) : (cs ++ more).dropWhile p = c :: (rest ++ more) := by
  rw [List.dropWhile_append, stopped]
  rfl

theorem takeWhile_append_of_stopped {p : Char → Bool} (stopped : cs.dropWhile p = c :: rest)
    (more : List Char) : (cs ++ more).takeWhile p = cs.takeWhile p := by
  have parts := congrArg List.length (List.takeWhile_append_dropWhile (p := p) (l := cs))
  rw [List.length_append, stopped, List.length_cons] at parts
  rw [List.takeWhile_append, if_neg (by omega)]

theorem Lexeme.word_append (stopped : (Lexeme.word cs).rest = c :: rest) (more : List Char) :
    Lexeme.word (cs ++ more) = (Lexeme.word cs).before more := by
  have dropped : cs.dropWhile isNamePart = c :: rest := stopped
  simp only [Lexeme.word, Lexeme.before, takeWhile_append_of_stopped dropped,
    dropWhile_append_of_stopped dropped, dropped, List.cons_append]

/-- A number keeps its digits before more text, unless a point is behind it. -/
theorem Lexeme.number_append (stopped : (Lexeme.number cs).rest = c :: rest) (other : c ≠ '.')
    (more : List Char) : Lexeme.number (cs ++ more) = (Lexeme.number cs).before more := by
  unfold Lexeme.number at stopped ⊢
  cases dropped : cs.dropWhile Char.isDigit with
  | nil =>
    rw [dropped] at stopped
    cases stopped
  | cons d after =>
    rw [takeWhile_append_of_stopped dropped, dropWhile_append_of_stopped dropped]
    rw [dropped] at stopped
    by_cases point : d = '.'
    · subst point
      by_cases bare : (after.takeWhile Char.isDigit).isEmpty = true
      · simp only [bare, if_true] at stopped
        cases stopped
        exact absurd rfl other
      · simp only [if_neg bare] at stopped ⊢
        rw [takeWhile_append_of_stopped stopped, dropWhile_append_of_stopped stopped, if_neg bare,
          stopped]
        rfl
    · simp only [List.cons.injEq, point, false_and, imp_self, implies_true]
      rfl

/-- A plain character is a lexeme whatever follows. -/
theorem lexeme?_of_plain {token : Token} (plain : plainToken? c = some token) (cs : List Char) :
    lexeme? c cs = some ⟨token, [c], cs⟩ := by
  unfold plainToken? at plain
  split at plain <;> cases plain <;> rfl

theorem Lexeme.sign?_append {lexeme : Lexeme} (h : Lexeme.sign? c cs = some lexeme)
    (stopped : lexeme.rest ≠ []) (more : List Char) :
    Lexeme.sign? c (cs ++ more) = some (lexeme.before more) := by
  unfold Lexeme.sign? at h ⊢
  split at h
  · cases h
    rfl
  · split at h
    · rename_i equals
      cases h
      simp only [equals]
      rfl
    · rename_i left _ _ short long equals single
      cases h
      cases left with
      | nil => exact absurd rfl stopped
      | cons d after =>
        have other : d ≠ '=' := by
          rintro rfl
          exact single after rfl
        rw [equals, List.cons_append]
        simp [other, Lexeme.before]
    · cases h

/-- **A lexeme is read alike before more text** if it is plain, or if something other than a point
    stands behind it already. -/
theorem lexeme?_append {lexeme : Lexeme} (h : lexeme? c cs = some lexeme)
    (separate : plainToken? c = some lexeme.token ∨ ∃ d rest, lexeme.rest = d :: rest ∧ d ≠ '.')
    (more : List Char) : lexeme? c (cs ++ more) = some (lexeme.before more) := by
  rcases separate with plain | ⟨d, rest, stopped, other⟩
  · rw [lexeme?_of_plain plain] at h ⊢
    rw [← Option.some.inj h]
    rfl
  · unfold lexeme? at h ⊢
    by_cases digit : c.isDigit = true
    · rw [if_pos digit] at h ⊢
      cases h
      exact congrArg some (Lexeme.number_append stopped other more)
    · rw [if_neg digit] at h ⊢
      by_cases start : isNameStart c = true
      · rw [if_pos start] at h ⊢
        cases h
        exact congrArg some (Lexeme.word_append stopped more)
      · rw [if_neg start] at h ⊢
        refine Lexeme.sign?_append h ?_ more
        rw [stopped]
        exact List.cons_ne_nil _ _

/-- A token that closes a statement is a plain character. -/
theorem plainToken?_of_closing {lexeme : Lexeme} (h : lexeme? c cs = some lexeme)
    (closing : lexeme.token.Closing) : plainToken? c = some lexeme.token := by
  have isLexeme := isLexeme_of_lexeme? h
  have whole := text_append_rest h
  obtain ⟨token, text, rest⟩ := lexeme
  rcases closing with eq | eq
  · cases eq
    cases isLexeme
    obtain ⟨rfl, -⟩ := List.cons.inj whole
    rfl
  · cases eq
    cases isLexeme
    obtain ⟨rfl, -⟩ := List.cons.inj whole
    rfl

end Seam

/-! ## 2. The offset of a scan -/

/-- The same error in a script with so many bytes more before it. -/
def ScanError.after (bytes : Nat) (error : ScanError) : ScanError :=
  ⟨bytes + error.offset, error.character⟩

/-- The same scan in a script with so many bytes more before it. -/
def Scan.after (bytes : Nat) (scan : Scan) : Scan :=
  ⟨scan.tokens, scan.stop.map (ScanError.after bytes)⟩

/-- Tokens, and then another input. -/
def Scan.append (tokens : List Token) (more : Scan) : Scan := ⟨tokens ++ more.tokens, more.stop⟩

section Offset

variable {offset : Nat} {c : Char} {cs rest : List Char}

theorem scanFrom_of_blank (ended : cs.dropWhile isBlank = []) : scanFrom offset cs = ⟨[], none⟩ := by
  rw [scanFrom]
  split
  · rfl
  · rename_i dropped
    rw [ended] at dropped
    cases dropped

theorem scanFrom_of_stuck (dropped : cs.dropWhile isBlank = c :: rest)
    (nothing : lexeme? c rest = none) :
    scanFrom offset cs = ⟨[], some ⟨offset + byteLength (cs.takeWhile isBlank), c⟩⟩ := by
  rw [scanFrom]
  split
  · rename_i ended
    rw [dropped] at ended
    cases ended
  · rename_i dropped'
    cases dropped.symm.trans dropped'
    split
    · rfl
    · rename_i found
      rw [nothing] at found
      cases found

theorem scanFrom_of_lexeme {lexeme : Lexeme} (dropped : cs.dropWhile isBlank = c :: rest)
    (found : lexeme? c rest = some lexeme) :
    scanFrom offset cs = (scanFrom (offset + byteLength (cs.takeWhile isBlank) +
      byteLength lexeme.text) lexeme.rest).cons lexeme.token := by
  rw [scanFrom]
  split
  · rename_i ended
    rw [dropped] at ended
    cases ended
  · rename_i dropped'
    cases dropped.symm.trans dropped'
    split
    · rename_i nothing
      rw [nothing] at found
      cases found
    · rename_i found'
      cases found.symm.trans found'
      rfl

/-- Only the offset of an error depends on where a text begins. -/
theorem scanFrom_add (bytes offset : Nat) (cs : List Char) :
    scanFrom (bytes + offset) cs = (scanFrom offset cs).after bytes := by
  fun_induction scanFrom offset cs with
  | case1 offset cs ended => exact scanFrom_of_blank ended
  | case2 offset cs start c rest dropped nothing =>
    rw [scanFrom_of_stuck dropped nothing, Nat.add_assoc]
    rfl
  | case3 offset cs start c rest dropped lexeme found ih =>
    rw [scanFrom_of_lexeme dropped found, Nat.add_assoc, Nat.add_assoc, ← Nat.add_assoc offset, ih]
    rfl

/-- Blanks before a text only move it. -/
theorem scanFrom_blanks {blanks : List Char} (each : ∀ c ∈ blanks, isBlank c = true)
    (offset : Nat) (cs : List Char) :
    scanFrom offset (blanks ++ cs) = scanFrom (offset + byteLength blanks) cs := by
  have dropped : (blanks ++ cs).dropWhile isBlank = cs.dropWhile isBlank :=
    List.dropWhile_append_of_pos each
  have taken : (blanks ++ cs).takeWhile isBlank = blanks ++ cs.takeWhile isBlank :=
    List.takeWhile_append_of_pos each
  cases first : cs.dropWhile isBlank with
  | nil => rw [scanFrom_of_blank first, scanFrom_of_blank (dropped.trans first)]
  | cons c rest =>
    cases found : lexeme? c rest with
    | none =>
      rw [scanFrom_of_stuck first found, scanFrom_of_stuck (dropped.trans first) found, taken,
        byteLength_append, Nat.add_assoc]
    | some lexeme =>
      rw [scanFrom_of_lexeme first found, scanFrom_of_lexeme (dropped.trans first) found, taken,
        byteLength_append, ← Nat.add_assoc offset]

/-- A scan stops at a point. -/
theorem scanFrom_point (offset : Nat) (cs : List Char) :
    scanFrom offset ('.' :: cs) = ⟨[], some ⟨offset, '.'⟩⟩ := scanFrom_of_stuck rfl rfl

end Offset

/-! ## 3. Two scripts -/

/-- **A text that ends with a closing token is scanned alike before more text**, which is then scanned
    as if it stood alone, but for its offset. -/
theorem scanFrom_append (offset : Nat) (cs more : List Char) :
    (scanFrom offset cs).stop = none →
      (∀ token ∈ (scanFrom offset cs).tokens.getLast?, token.Closing) →
      scanFrom offset (cs ++ more) =
        .append (scanFrom offset cs).tokens (scanFrom (offset + byteLength cs) more) := by
  fun_induction scanFrom offset cs with
  | case1 offset cs ended =>
    intro _ _
    exact scanFrom_blanks (List.dropWhile_eq_nil_iff.mp ended) offset more
  | case2 offset cs start c rest dropped nothing =>
    intro ended
    cases ended
  | case3 offset cs start c rest dropped lexeme found ih =>
    intro ended closing
    have ended : (scanFrom (start + byteLength lexeme.text) lexeme.rest).stop = none := ended
    -- the last lexeme is plain, and a point behind another one would have stopped the scan
    have separate : plainToken? c = some lexeme.token ∨
        ∃ d rest, lexeme.rest = d :: rest ∧ d ≠ '.' := by
      cases behind : lexeme.rest with
      | nil =>
        rw [behind, scanFrom_of_blank rfl] at closing
        exact .inl (plainToken?_of_closing found (closing _ rfl))
      | cons d rest =>
        refine .inr ⟨d, rest, rfl, ?_⟩
        rintro rfl
        rw [behind, scanFrom_point] at ended
        cases ended
    have closing' : ∀ token ∈ (scanFrom (start + byteLength lexeme.text) lexeme.rest).tokens.getLast?,
        token.Closing := by
      intro token last
      refine closing token ?_
      rw [Option.mem_def] at last ⊢
      rw [Scan.cons, List.getLast?_cons, last]
      rfl
    have whole : cs.takeWhile isBlank ++ (lexeme.text ++ lexeme.rest) = cs := by
      rw [text_append_rest found, ← dropped]
      exact List.takeWhile_append_dropWhile
    have far : offset + byteLength cs =
        start + byteLength lexeme.text + byteLength lexeme.rest := by
      rw [← whole, byteLength_append, byteLength_append]
      omega
    rw [scanFrom_of_lexeme (dropWhile_append_of_stopped dropped more)
      (lexeme?_append found separate more), takeWhile_append_of_stopped dropped, far]
    exact congrArg (Scan.cons lexeme.token) (ih ended closing')

/-- **Two scripts, one after the other.** -/
theorem scan_append {first : String} {tokens : List Token} (h : scan first = ⟨tokens, none⟩)
    (closing : ∀ token ∈ tokens.getLast?, token.Closing) (second : String) :
    scan (first ++ second) = .append tokens ((scan second).after first.utf8ByteSize) := by
  have seam := scanFrom_append 0 first.toList second.toList
  rw [show scanFrom 0 first.toList = ⟨tokens, none⟩ from h] at seam
  rw [scan, String.toList_append, seam rfl closing, Nat.zero_add, byteLength_eq_utf8ByteSize,
    String.ofList_toList, scan, ← scanFrom_add, Nat.add_zero]

end NumScript
