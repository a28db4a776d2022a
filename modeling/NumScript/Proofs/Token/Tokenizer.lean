import NumScript.Proofs.Token.Spacing

/-!
# Tokens one at a time

A scan finds all tokens of a script at once. A TOKENIZER gives them one at a time: it holds the
script without the blanks at its two ends, and how many bytes of the text it has read. All lengths in
it are bytes of UTF-8, and what is behind the position is cut off anew for each token, so a step could
go wrong in more ways than by a character that no lexeme begins with (`TokenFault`): the position could
be inside a character, or at the end of the text, or what looks like a number could not be one.

None of this happens. Between two tokens the position is at the end of the text or in front of a
character that is not blank (`Tokenizer.Fits`), and from there a step does what the scan does
(`Tokenizer.next_cases`). So a tokenizer gives the tokens of the scan and reports the error of the scan,
and the other faults are never met (`Tokenizer.agrees_with_scan`).
-/

namespace NumScript

/-! ## 1. The tokenizer -/

/-- Why there is no token. -/
inductive TokenFault where
  /-- The text cannot be cut there. -/
  | noBoundary
  /-- The text is at its end. -/
  | endOfText
  /-- This is not the spelling of a number. -/
  | notNumber (text : List Char)
  /-- No lexeme begins with this character. -/
  | stray (c : Char)

/-- The character that is reported. Nothing is reported of a text that cannot be cut. -/
def TokenFault.character? : TokenFault → Option Char
  | .noBoundary => none
  | .endOfText => some '\x00'
  | .notNumber text => some (text.head?.getD '0')
  | .stray c => some c

/-- The two parts of a text that is cut so many bytes behind its beginning. A character is not cut. -/
def cut : Nat → List Char → Except TokenFault (List Char × List Char)
  | 0, cs => .ok ([], cs)
  | _ + 1, [] => .error .noBoundary
  | bytes + 1, c :: cs =>
    if c.utf8Size ≤ bytes + 1 then do
      let (first, second) ← cut (bytes + 1 - c.utf8Size) cs
      pure (c :: first, second)
    else .error .noBoundary

/-- The number of digits that a text begins with. Each of them is one byte. -/
def digitCount (cs : List Char) : Nat := (cs.takeWhile Char.isDigit).length

/-- The number of bytes of the number that a text begins with. -/
def numberLength (cs : List Char) : Nat :=
  let whole := digitCount cs
  match cs.drop whole with
  | '.' :: after => if 0 < digitCount after then whole + 1 + digitCount after else whole
  | _ => whole

/-- The number of bytes of the word that a text begins with. -/
def wordLength (cs : List Char) : Nat := (cs.takeWhile isNamePart).length

/-- The number that a text is the spelling of. Only plain decimals are read here: what else could be
    read as a number, with a sign or an exponent, is no lexeme. -/
def readNumber (text : List Char) : Option Binary64 :=
  let whole := text.takeWhile Char.isDigit
  match text.dropWhile Char.isDigit with
  | [] => if whole.isEmpty then none else some (Binary64.ofDecimal whole [])
  | '.' :: fraction =>
    if fraction.all Char.isDigit && !(whole.isEmpty && fraction.isEmpty) then
      some (Binary64.ofDecimal whole fraction)
    else none
  | _ => none

/-- The token of a word. -/
def wordToken (text : List Char) : Token :=
  match Keyword.ofSpelling? (String.ofList text) with
  | some keyword => .keyword keyword
  | none => .identifier (String.ofList text)

/-- The token that a text begins with, and the number of its bytes. -/
def tokenAt (c : Char) (after : List Char) : Except TokenFault (Token × Nat) :=
  if c.isDigit then do
    let length := numberLength (c :: after)
    let (text, _) ← cut length (c :: after)
    match readNumber text with
    | some value => pure (.number value, length)
    | none => throw (.notNumber text)
  else if isNameStart c then do
    let length := wordLength (c :: after)
    let (text, _) ← cut length (c :: after)
    pure (wordToken text, length)
  else
    match plainToken? c with
    | some token => pure (token, 1)
    | none =>
      match equalsToken? c with
      | some (short?, long) =>
        if after.head? = some '=' then pure (long, 2)
        else
          match short? with
          | some short => pure (short, 1)
          | none => throw (.stray c)
      | none => throw (.stray c)

/-- A script that is read token by token. -/
structure Tokenizer where
  /-- The script without the blanks at its beginning and at its end. -/
  text : List Char
  /-- The number of bytes of the blanks at the beginning. -/
  base : Nat
  /-- The number of bytes of the text that were read. -/
  position : Nat
  /-- Whether there was a fault. -/
  failed : Bool

namespace Tokenizer

/-- The tokenizer at the beginning of a script. -/
def start (source : String) : Tokenizer where
  text := (source.toList.dropWhile isBlank).rdropWhile isBlank
  base := byteLength source.toList - byteLength (source.toList.dropWhile isBlank)
  position := 0
  failed := false

/-- The text that was not read. -/
def rest (tokenizer : Tokenizer) : Except TokenFault (List Char) := do
  let (_, rest) ← cut tokenizer.position tokenizer.text
  pure rest

/-- The blanks at the position are read. -/
def skipBlanks (tokenizer : Tokenizer) : Except TokenFault Tokenizer := do
  let rest ← tokenizer.rest
  let skipped := byteLength rest - byteLength (rest.dropWhile isBlank)
  pure { tokenizer with position := tokenizer.position + skipped }

/-- One token and the blanks behind it. -/
def nextToken (tokenizer : Tokenizer) : Except TokenFault (Token × Tokenizer) := do
  match ← tokenizer.rest with
  | [] => throw .endOfText
  | c :: after =>
    let (token, length) ← tokenAt c after
    let tokenizer ← skipBlanks { tokenizer with position := tokenizer.position + length }
    pure (token, tokenizer)

/-- One step. After a fault and at the end of the text there is nothing more. -/
def next (tokenizer : Tokenizer) : Option (Except TokenFault Token) × Tokenizer :=
  if tokenizer.failed || byteLength tokenizer.text ≤ tokenizer.position then (none, tokenizer)
  else
    match tokenizer.nextToken with
    | .ok (token, after) => (some (.ok token), after)
    | .error fault => (some (.error fault), { tokenizer with failed := true })

/-- What is reported of a fault: where it was in the script, and the character. -/
def report (tokenizer : Tokenizer) (fault : TokenFault) : Option ScanError :=
  fault.character?.map fun c => ⟨tokenizer.base + tokenizer.position, c⟩

/-- What a tokenizer gives step by step: tokens, and after them nothing more, or an error and then
    nothing more. -/
inductive Yields : Tokenizer → Scan → Prop
  | ended {tokenizer : Tokenizer} (nothing : tokenizer.next = (none, tokenizer)) :
      Yields tokenizer ⟨[], none⟩
  | failed {tokenizer after : Tokenizer} {fault : TokenFault} {error : ScanError}
      (step : tokenizer.next = (some (.error fault), after))
      (reported : tokenizer.report fault = some error) (nothing : after.next = (none, after)) :
      Yields tokenizer ⟨[], some error⟩
  | token {tokenizer after : Tokenizer} {token : Token} {scan : Scan}
      (step : tokenizer.next = (some (.ok token), after)) (more : Yields after scan) :
      Yields tokenizer (scan.cons token)

/-- The states of the tokenizer of a script, however often it is asked for a token. -/
inductive Reached (source : String) : Tokenizer → Prop
  | start : Reached source (start source)
  | next {tokenizer : Tokenizer} (before : Reached source tokenizer) : Reached source tokenizer.next.2

end Tokenizer

/-! ## 2. Lengths in bytes -/

theorem cut_byteLength : ∀ first second : List Char,
    cut (byteLength first) (first ++ second) = .ok (first, second)
  | [], second => by rw [byteLength, cut, List.nil_append]
  | c :: rest, second => by
    obtain ⟨size, positive⟩ := Nat.exists_eq_succ_of_ne_zero c.utf8Size_pos.ne'
    have left : byteLength (c :: rest) = size + byteLength rest + 1 := by
      rw [byteLength, positive]
      omega
    have remaining : size + byteLength rest + 1 - c.utf8Size = byteLength rest := by omega
    rw [left, List.cons_append, cut, if_pos (by omega), remaining, cut_byteLength rest second]
    rfl

/-- A letter, a digit, an underscore or a point is one byte. -/
theorem utf8Size_eq_one {c : Char} (h : isNamePart c = true ∨ c = '.') : c.utf8Size = 1 := by
  have small : c.val.toNat ≤ 127 := by
    rw [isNamePart_iff] at h
    simp only [NameStart, Digit, Char.le_def, UInt32.le_iff_toNat_le] at h
    have ends : 'Z'.val.toNat = 90 ∧ 'z'.val.toNat = 122 ∧ '9'.val.toNat = 57 := ⟨rfl, rfl, rfl⟩
    rcases h with ((letter | letter | rfl) | digit) | rfl
    · omega
    · omega
    · decide
    · omega
    · decide
  exact if_pos (UInt32.le_iff_toNat_le.mpr small)

theorem byteLength_eq_length {cs : List Char} (each : ∀ c ∈ cs, isNamePart c = true ∨ c = '.') :
    byteLength cs = cs.length := by
  induction cs with
  | nil => rfl
  | cons c rest ih =>
    obtain ⟨first, others⟩ := List.forall_mem_cons.mp each
    rw [byteLength, utf8Size_eq_one first, ih others, List.length_cons, Nat.add_comm]

theorem isNamePart_of_isDigit {c : Char} (digit : c.isDigit = true) : isNamePart c = true :=
  isNamePart_iff.mpr (.inr (isDigit_iff.mp digit))

theorem byteLength_word (cs : List Char) :
    byteLength (Lexeme.word cs).text = wordLength cs :=
  byteLength_eq_length fun _ mem => .inl (List.mem_takeWhile_imp mem)

/-! ## 3. One lexeme -/

theorem digitCount_eq (cs : List Char) : digitCount cs = byteLength (cs.takeWhile Char.isDigit) :=
  (byteLength_eq_length fun _ mem =>
    .inl (isNamePart_of_isDigit (List.mem_takeWhile_imp mem))).symm

theorem drop_digitCount (cs : List Char) :
    cs.drop (digitCount cs) = cs.dropWhile Char.isDigit := by
  have parts := List.takeWhile_append_dropWhile (p := Char.isDigit) (l := cs)
  calc cs.drop (digitCount cs)
      = (cs.takeWhile Char.isDigit ++ cs.dropWhile Char.isDigit).drop (digitCount cs) := by rw [parts]
    _ = cs.dropWhile Char.isDigit := List.drop_left

theorem byteLength_number (cs : List Char) :
    byteLength (Lexeme.number cs).text = numberLength cs := by
  simp only [Lexeme.number, numberLength, drop_digitCount]
  generalize cs.dropWhile Char.isDigit = behind
  cases behind with
  | nil => exact (digitCount_eq cs).symm
  | cons d after =>
    by_cases point : d = '.'
    · subst point
      show byteLength (if (after.takeWhile Char.isDigit).isEmpty then _ else _ : Lexeme).text =
        if 0 < digitCount after then digitCount cs + 1 + digitCount after else digitCount cs
      by_cases empty : after.takeWhile Char.isDigit = []
      · have none : digitCount after = 0 := by rw [digitCount, empty, List.length_nil]
        rw [if_pos (by simpa using empty), none, if_neg (Nat.lt_irrefl 0), digitCount_eq]
      · have some : 0 < digitCount after := List.length_pos_iff.mpr empty
        rw [if_neg (by simpa using empty), if_pos some, byteLength_append, byteLength, digitCount_eq,
          digitCount_eq, Nat.add_assoc]
        rfl
    · simp [point, digitCount_eq]

theorem readNumber_of_isLexeme {text : List Char} {value : Binary64}
    (h : IsLexeme text (.number value)) : readNumber text = some value := by
  cases h with
  | whole nonempty each =>
    have digits : ∀ d ∈ text, d.isDigit = true := fun d mem => isDigit_iff.mpr (each d mem)
    simp [readNumber, List.takeWhile_eq_self_iff.mpr digits, List.dropWhile_eq_nil_iff.mpr digits,
      nonempty]
  | @fraction whole fraction nonempty each nonempty' each' =>
    have digits : ∀ d ∈ whole, d.isDigit = true := fun d mem => isDigit_iff.mpr (each d mem)
    have digits' : ∀ d ∈ fraction, d.isDigit = true := fun d mem => isDigit_iff.mpr (each' d mem)
    have first : (whole ++ '.' :: fraction).takeWhile Char.isDigit = whole := by
      rw [List.takeWhile_append_of_pos digits, List.takeWhile_cons_of_neg (by decide), List.append_nil]
    have second : (whole ++ '.' :: fraction).dropWhile Char.isDigit = '.' :: fraction := by
      rw [List.dropWhile_append_of_pos digits, List.dropWhile_cons_of_neg (by decide)]
    simp only [readNumber, first, second]
    rw [if_pos (by simpa [nonempty] using digits')]

theorem exists_token_number (cs : List Char) :
    ∃ value, (Lexeme.number cs).token = .number value := by
  unfold Lexeme.number
  dsimp only
  split
  · split
    · exact ⟨_, rfl⟩
    · exact ⟨_, rfl⟩
  · exact ⟨_, rfl⟩

theorem tokenAt_number {c : Char} (digit : c.isDigit = true) (cs : List Char) :
    tokenAt c cs = .ok ((Lexeme.number (c :: cs)).token,
      byteLength (Lexeme.number (c :: cs)).text) := by
  obtain ⟨value, isNumber⟩ := exists_token_number (c :: cs)
  have read : readNumber (Lexeme.number (c :: cs)).text = some value :=
    readNumber_of_isLexeme (isNumber ▸ isLexeme_number digit)
  have parts := cut_byteLength (Lexeme.number (c :: cs)).text (Lexeme.number (c :: cs)).rest
  rw [Lexeme.text_append_rest_number, byteLength_number] at parts
  rw [tokenAt, if_pos digit]
  dsimp only
  rw [parts]
  dsimp only [bind, Except.bind]
  rw [read, isNumber, byteLength_number]
  rfl

theorem tokenAt_word {c : Char} (other : c.isDigit = false) (start : isNameStart c = true)
    (cs : List Char) : tokenAt c cs =
      .ok ((Lexeme.word (c :: cs)).token, byteLength (Lexeme.word (c :: cs)).text) := by
  have parts := cut_byteLength (Lexeme.word (c :: cs)).text (Lexeme.word (c :: cs)).rest
  rw [Lexeme.text_append_rest_word, byteLength_word] at parts
  rw [tokenAt, other, if_neg Bool.false_ne_true, if_pos start]
  dsimp only
  rw [parts, byteLength_word]
  rfl

theorem utf8Size_of_plain {c : Char} {token : Token} (h : plainToken? c = some token) :
    c.utf8Size = 1 := by
  unfold plainToken? at h
  split at h <;> cases h <;> rfl

theorem utf8Size_of_equals {c : Char} {tokens : Option Token × Token}
    (h : equalsToken? c = some tokens) : c.utf8Size = 1 := by
  unfold equalsToken? at h
  split at h <;> cases h <;> rfl

/-- A sign that has an equals sign behind it in one of its two forms. -/
theorem sign?_of_equals {c : Char} {short? : Option Token} {long : Token}
    (plain : plainToken? c = none) (equals : equalsToken? c = some (short?, long)) (cs : List Char) :
    Lexeme.sign? c cs = if cs.head? = some '=' then some ⟨long, [c, '='], cs.tail⟩
      else short?.map fun short => ⟨short, [c], cs⟩ := by
  unfold Lexeme.sign?
  rw [plain, equals]
  cases cs with
  | nil => cases short? <;> rfl
  | cons d rest =>
    by_cases equal : d = '='
    · subst equal
      rfl
    · cases short? with
      | none => simp [equal]
      | some short => simp [equal]

theorem tokenAt_sign {c : Char} (other : c.isDigit = false) (other' : isNameStart c = false)
    (cs : List Char) : tokenAt c cs = match Lexeme.sign? c cs with
      | some lexeme => .ok (lexeme.token, byteLength lexeme.text)
      | none => .error (.stray c) := by
  rw [tokenAt, other, other', if_neg Bool.false_ne_true, if_neg Bool.false_ne_true]
  cases plain : plainToken? c with
  | some token =>
    simp only [Lexeme.sign?, plain, byteLength, utf8Size_of_plain plain]
    rfl
  | none =>
    cases equals : equalsToken? c with
    | none =>
      simp only [Lexeme.sign?, plain, equals]
      rfl
    | some tokens =>
      obtain ⟨short?, long⟩ := tokens
      rw [sign?_of_equals plain equals]
      dsimp only
      split
      · simp only [byteLength, utf8Size_of_equals equals]
        rfl
      · cases short? with
        | none => rfl
        | some short =>
          simp only [Option.map_some, byteLength, utf8Size_of_equals equals]
          rfl

/-- **One token is read as one lexeme is**, and the only fault is that there is none. -/
theorem tokenAt_eq (c : Char) (cs : List Char) : tokenAt c cs = match lexeme? c cs with
    | some lexeme => .ok (lexeme.token, byteLength lexeme.text)
    | none => .error (.stray c) := by
  cases digit : c.isDigit with
  | true =>
    rw [lexeme?, if_pos digit]
    exact tokenAt_number digit cs
  | false =>
    cases start : isNameStart c with
    | true =>
      rw [lexeme?, digit, if_neg Bool.false_ne_true, if_pos start]
      exact tokenAt_word digit start cs
    | false =>
      rw [lexeme?, digit, start, if_neg Bool.false_ne_true, if_neg Bool.false_ne_true]
      exact tokenAt_sign digit start cs

/-! ## 4. One step -/

/-- Where a tokenizer is between two tokens: this text was not read, and it does not begin with a
    blank. -/
structure Tokenizer.Fits (tokenizer : Tokenizer) (rest : List Char) : Prop where
  /-- There was no fault. -/
  going : tokenizer.failed = false
  /-- The position is behind the text that was read. -/
  position : ∃ before, tokenizer.text = before ++ rest ∧ tokenizer.position = byteLength before
  /-- The blanks are skipped. -/
  clean : ∀ c ∈ rest.head?, isBlank c = false

namespace Tokenizer

variable {tokenizer : Tokenizer} {c : Char} {cs rest : List Char}

theorem rest_of_position {before : List Char} (text : tokenizer.text = before ++ rest)
    (position : tokenizer.position = byteLength before) : tokenizer.rest = .ok rest := by
  rw [Tokenizer.rest, text, position, cut_byteLength]
  rfl

/-- The blanks are skipped, and then the position fits again. -/
theorem skipBlanks_of_position {before : List Char} (going : tokenizer.failed = false)
    (text : tokenizer.text = before ++ rest) (position : tokenizer.position = byteLength before) :
    ∃ after, tokenizer.skipBlanks = .ok after ∧ after.Fits (rest.dropWhile isBlank) ∧
      after.base = tokenizer.base ∧
      after.position = tokenizer.position + byteLength (rest.takeWhile isBlank) := by
  have parts := List.takeWhile_append_dropWhile (p := isBlank) (l := rest)
  have skipped : byteLength rest - byteLength (rest.dropWhile isBlank) =
      byteLength (rest.takeWhile isBlank) := by
    have bytes := congrArg byteLength parts
    rw [byteLength_append] at bytes
    omega
  refine ⟨{ tokenizer with position := tokenizer.position + byteLength (rest.takeWhile isBlank) }, ?_,
    ⟨going, ⟨before ++ rest.takeWhile isBlank, ?_, ?_⟩, ?_⟩, rfl, rfl⟩
  · rw [skipBlanks, rest_of_position text position, ← skipped]
    rfl
  · rw [List.append_assoc, parts, text]
  · rw [byteLength_append, position]
  · intro c first
    have stopped := List.head?_dropWhile_not isBlank rest
    rw [Option.mem_def.mp first] at stopped
    exact stopped

theorem next_of_ended (h : tokenizer.Fits []) : tokenizer.next = (none, tokenizer) := by
  obtain ⟨before, text, position⟩ := h.position
  rw [next, text, position, List.append_nil]
  simp

theorem next_of_nextToken {after : List Char} (h : tokenizer.Fits (c :: after)) :
    tokenizer.next = match tokenizer.nextToken with
      | .ok (token, after) => (some (.ok token), after)
      | .error fault => (some (.error fault), { tokenizer with failed := true }) := by
  obtain ⟨before, text, position⟩ := h.position
  have inside : ¬ byteLength tokenizer.text ≤ tokenizer.position := by
    have positive := c.utf8Size_pos
    rw [text, position, byteLength_append, byteLength]
    omega
  rw [next, h.going]
  simp [inside]

/-- A character that no lexeme begins with is a fault. -/
theorem next_of_stuck (h : tokenizer.Fits (c :: cs)) (nothing : lexeme? c cs = none) :
    tokenizer.next = (some (.error (.stray c)), { tokenizer with failed := true }) := by
  obtain ⟨before, text, position⟩ := h.position
  have fails : tokenizer.nextToken = .error (.stray c) := by
    rw [nextToken, rest_of_position text position]
    show (tokenAt c cs >>= _) = _
    rw [tokenAt_eq, nothing]
    rfl
  rw [next_of_nextToken h, fails]

/-- A lexeme is read, and the position fits the text behind it and its blanks. -/
theorem next_of_lexeme {lexeme : Lexeme} (h : tokenizer.Fits (c :: cs))
    (found : lexeme? c cs = some lexeme) :
    ∃ after, tokenizer.next = (some (.ok lexeme.token), after) ∧
      after.Fits (lexeme.rest.dropWhile isBlank) ∧ after.base = tokenizer.base ∧
      after.position = tokenizer.position + byteLength lexeme.text +
        byteLength (lexeme.rest.takeWhile isBlank) := by
  obtain ⟨before, text, position⟩ := h.position
  have whole : tokenizer.text = before ++ lexeme.text ++ lexeme.rest := by
    rw [List.append_assoc, text_append_rest found, text]
  obtain ⟨after, skips, fits, base, moved⟩ := @skipBlanks_of_position
    { tokenizer with position := tokenizer.position + byteLength lexeme.text } _ _ h.going whole
    (by rw [byteLength_append, position])
  have reads : tokenizer.nextToken = .ok (lexeme.token, after) := by
    rw [nextToken, rest_of_position text position]
    show (tokenAt c cs >>= _) = _
    rw [tokenAt_eq, found]
    show (skipBlanks _ >>= _) = _
    rw [skips]
    rfl
  exact ⟨after, by rw [next_of_nextToken h, reads], fits, base, moved⟩

end Tokenizer

/-! ## 5. Blanks at the end -/

section Trail

variable {more : List Char}

/-- What a lexeme goes on with is found in front of blanks. -/
theorem takeWhile_apart {p : Char → Bool} (stops : ∀ c, isBlank c = true → p c = false)
    (apart : Apart more) : ∀ cs : List Char, (cs ++ more).takeWhile p = cs.takeWhile p ∧
      (cs ++ more).dropWhile p = cs.dropWhile p ++ more
  | [] => by
    cases more with
    | nil => exact ⟨rfl, rfl⟩
    | cons c rest =>
      have stopped : ¬ p c = true := Bool.eq_false_iff.mp (stops c (apart c rfl))
      exact ⟨List.takeWhile_cons_of_neg stopped, List.dropWhile_cons_of_neg stopped⟩
  | c :: cs => by
    obtain ⟨taken, dropped⟩ := takeWhile_apart stops apart cs
    rw [List.cons_append, List.takeWhile_cons, List.takeWhile_cons, List.dropWhile_cons,
      List.dropWhile_cons, taken, dropped]
    split
    · exact ⟨rfl, rfl⟩
    · exact ⟨rfl, rfl⟩

theorem not_isDigit_of_isBlank (c : Char) (blank : isBlank c = true) : c.isDigit = false := by
  refine Bool.eq_false_iff.mpr fun digit => ?_
  have part := isNamePart_of_isDigit digit
  rw [not_isNamePart_of_isBlank blank] at part
  cases part

theorem Lexeme.word_apart (apart : Apart more) (cs : List Char) :
    Lexeme.word (cs ++ more) = (Lexeme.word cs).before more := by
  obtain ⟨taken, dropped⟩ :=
    takeWhile_apart (fun _ blank => not_isNamePart_of_isBlank blank) apart cs
  simp only [Lexeme.word, Lexeme.before, taken, dropped]

theorem Lexeme.number_apart (apart : Apart more) (cs : List Char) :
    Lexeme.number (cs ++ more) = (Lexeme.number cs).before more := by
  obtain ⟨taken, dropped⟩ := takeWhile_apart not_isDigit_of_isBlank apart cs
  simp only [Lexeme.number, taken, dropped]
  generalize cs.dropWhile Char.isDigit = behind
  cases behind with
  | nil =>
    cases more with
    | nil => rfl
    | cons c rest =>
      have other : c ≠ '.' := by
        rintro rfl
        exact absurd (apart '.' rfl) (by decide)
      simp [other, Lexeme.before]
  | cons c after =>
    by_cases point : c = '.'
    · subst point
      obtain ⟨taken, dropped⟩ := takeWhile_apart not_isDigit_of_isBlank apart after
      simp only [List.cons_append, taken, dropped]
      split
      · rfl
      · rfl
    · simp [point, Lexeme.before]

theorem Lexeme.sign?_apart {c : Char} (apart : Apart more) (cs : List Char) :
    Lexeme.sign? c (cs ++ more) = (Lexeme.sign? c cs).map (Lexeme.before more) := by
  cases plain : plainToken? c with
  | some token =>
    simp only [Lexeme.sign?, plain]
    rfl
  | none =>
    cases equals : equalsToken? c with
    | none =>
      simp only [Lexeme.sign?, plain, equals]
      rfl
    | some tokens =>
      obtain ⟨short?, long⟩ := tokens
      rw [sign?_of_equals plain equals, sign?_of_equals plain equals]
      cases cs with
      | nil =>
        have noEquals : more.head? ≠ some '=' := fun first => absurd (apart '=' first) (by decide)
        rw [List.nil_append, if_neg noEquals, if_neg (by simp), Option.map_map]
        rfl
      | cons d rest =>
        rw [List.cons_append, List.head?_cons, List.head?_cons]
        split
        · rfl
        · rw [Option.map_map]
          rfl

/-- **No lexeme is read differently for the blanks behind it**, nor is one found because of them. -/
theorem lexeme?_apart {c : Char} (apart : Apart more) (cs : List Char) :
    lexeme? c (cs ++ more) = (lexeme? c cs).map (Lexeme.before more) := by
  unfold lexeme?
  split
  · exact congrArg some (Lexeme.number_apart apart (c :: cs))
  · split
    · exact congrArg some (Lexeme.word_apart apart (c :: cs))
    · exact Lexeme.sign?_apart apart cs

/-- **Blanks at the end make no difference.** -/
theorem scanFrom_trail {blanks : List Char} (each : ∀ c ∈ blanks, isBlank c = true) (offset : Nat)
    (cs : List Char) : scanFrom offset (cs ++ blanks) = scanFrom offset cs := by
  have apart : Apart blanks := fun c first => each c (List.mem_of_mem_head? first)
  fun_induction scanFrom offset cs with
  | case1 offset cs ended =>
    have ended' : (cs ++ blanks).dropWhile isBlank = [] := by
      rw [List.dropWhile_eq_nil_iff] at ended ⊢
      exact List.forall_mem_append.mpr ⟨ended, each⟩
    exact scanFrom_of_blank ended'
  | case2 offset cs start c rest dropped nothing =>
    have nothing' : lexeme? c (rest ++ blanks) = none := by
      rw [lexeme?_apart apart, nothing, Option.map_none]
    rw [scanFrom_of_stuck (dropWhile_append_of_stopped dropped blanks) nothing',
      takeWhile_append_of_stopped dropped]
  | case3 offset cs start c rest dropped lexeme found ih =>
    have found' : lexeme? c (rest ++ blanks) = some (lexeme.before blanks) := by
      rw [lexeme?_apart apart, found, Option.map_some]
    rw [scanFrom_of_lexeme (dropWhile_append_of_stopped dropped blanks) found',
      takeWhile_append_of_stopped dropped]
    exact congrArg (Scan.cons lexeme.token) ih

end Trail

/-! ## 6. All steps -/

theorem scanFrom_skip (offset : Nat) (cs : List Char) : scanFrom offset cs =
    scanFrom (offset + byteLength (cs.takeWhile isBlank)) (cs.dropWhile isBlank) := by
  have blank : ∀ c ∈ cs.takeWhile isBlank, isBlank c = true := fun _ mem =>
    List.mem_takeWhile_imp mem
  rw [← scanFrom_blanks blank, List.takeWhile_append_dropWhile]

namespace Tokenizer

theorem next_of_failed {tokenizer : Tokenizer} (h : tokenizer.failed = true) :
    tokenizer.next = (none, tokenizer) := by
  rw [next, h]
  rfl

/-- **From where it fits, a tokenizer gives what a scan from there finds.** -/
theorem yields_of_fits : ∀ {tokenizer : Tokenizer} {rest : List Char}, tokenizer.Fits rest →
    tokenizer.Yields (scanFrom (tokenizer.base + tokenizer.position) rest)
  | tokenizer, [], h => by
    rw [scanFrom_of_blank rfl]
    exact .ended (next_of_ended h)
  | tokenizer, c :: cs, h => by
    have stopped : ¬ isBlank c = true := Bool.eq_false_iff.mp (h.clean c rfl)
    have dropped : (c :: cs).dropWhile isBlank = c :: cs := List.dropWhile_cons_of_neg stopped
    have taken : (c :: cs).takeWhile isBlank = [] := List.takeWhile_cons_of_neg stopped
    cases found : lexeme? c cs with
    | none =>
      rw [scanFrom_of_stuck dropped found, taken]
      exact .failed (next_of_stuck h found) rfl (next_of_failed rfl)
    | some lexeme =>
      obtain ⟨after, step, fits, base, position⟩ := next_of_lexeme h found
      -- a lexeme is never empty, so there is less to read behind it
      have shorter : (lexeme.rest.dropWhile isBlank).length < (c :: cs).length :=
        (length_dropWhile_le isBlank lexeme.rest).trans_lt (length_rest_lt found)
      have more := yields_of_fits fits
      rw [base, position, ← Nat.add_assoc, ← Nat.add_assoc, ← scanFrom_skip] at more
      rw [scanFrom_of_lexeme dropped found, taken]
      exact .token step more
termination_by _ rest => rest.length
decreasing_by exact shorter

/-- A tokenizer gives one scan only. -/
theorem Yields.unique {tokenizer : Tokenizer} {first second : Scan} (h : tokenizer.Yields first)
    (h' : tokenizer.Yields second) : first = second := by
  induction h generalizing second with
  | ended nothing =>
    cases h' with
    | ended => rfl
    | failed step => cases nothing.symm.trans step
    | token step => cases nothing.symm.trans step
  | failed step reported =>
    cases h' with
    | ended nothing => cases nothing.symm.trans step
    | failed step' reported' =>
      cases step.symm.trans step'
      rw [Option.some.inj (reported.symm.trans reported')]
    | token step' => cases step.symm.trans step'
  | token step more ih =>
    cases h' with
    | ended nothing => cases nothing.symm.trans step
    | failed step' => cases step.symm.trans step'
    | token step' more' =>
      cases step.symm.trans step'
      rw [ih more']

/-- At the beginning the blanks are off, and the position fits. -/
theorem fits_start (source : String) : (start source).Fits (start source).text where
  going := rfl
  position := ⟨[], rfl, rfl⟩
  clean := by
    intro c first
    obtain ⟨rest, whole⟩ : (start source).text <+: source.toList.dropWhile isBlank :=
      List.rdropWhile_prefix ..
    have stopped := List.head?_dropWhile_not isBlank source.toList
    rw [← whole, List.head?_append_of_ne_nil _ (List.ne_nil_of_mem (List.mem_of_mem_head? first)),
      Option.mem_def.mp first] at stopped
    exact stopped

theorem scanFrom_start (source : String) :
    scanFrom (start source).base (start source).text = scan source := by
  have parts := List.takeWhile_append_dropWhile (p := isBlank) (l := source.toList)
  have base : (start source).base = byteLength (source.toList.takeWhile isBlank) := by
    have bytes := congrArg byteLength parts
    rw [byteLength_append] at bytes
    show byteLength source.toList - byteLength (source.toList.dropWhile isBlank) = _
    omega
  have trail : ∀ c ∈ (source.toList.dropWhile isBlank).rtakeWhile isBlank, isBlank c = true :=
    fun _ mem => List.mem_rtakeWhile_imp mem
  rw [scan, scanFrom_skip 0 source.toList, Nat.zero_add, ← base, ← scanFrom_trail trail]
  exact congrArg (scanFrom _) (List.rdropWhile_append_rtakeWhile ..)

/-- **What a step between two tokens can do.** -/
theorem next_cases {tokenizer : Tokenizer} {rest : List Char} (h : tokenizer.Fits rest) :
    tokenizer.next = (none, tokenizer) ∨
    (∃ c, tokenizer.next = (some (.error (.stray c)), { tokenizer with failed := true })) ∨
    ∃ token after rest', tokenizer.next = (some (.ok token), after) ∧ after.Fits rest' := by
  cases rest with
  | nil => exact .inl (next_of_ended h)
  | cons c cs =>
    cases found : lexeme? c cs with
    | none => exact .inr (.inl ⟨c, next_of_stuck h found⟩)
    | some lexeme =>
      obtain ⟨after, step, fits, -⟩ := next_of_lexeme h found
      exact .inr (.inr ⟨_, after, _, step, fits⟩)

/-- A tokenizer that was asked any number of times has failed, or is between two tokens. -/
theorem Reached.fits {source : String} {tokenizer : Tokenizer} (h : Reached source tokenizer) :
    tokenizer.failed = true ∨ ∃ rest, tokenizer.Fits rest := by
  induction h with
  | start => exact .inr ⟨_, fits_start source⟩
  | next before ih =>
    rcases ih with failed | ⟨rest, fits⟩
    · rw [next_of_failed failed]
      exact .inl failed
    · obtain step | ⟨c, step⟩ | ⟨_, after, rest, step, fits'⟩ := next_cases fits
      · rw [step]
        exact .inr ⟨_, fits⟩
      · rw [step]
        exact .inl rfl
      · rw [step]
        exact .inr ⟨rest, fits'⟩

theorem Reached.stray {source : String} {tokenizer : Tokenizer} (h : Reached source tokenizer)
    {fault : TokenFault} (failing : tokenizer.next.1 = some (.error fault)) :
    ∃ c, fault = .stray c := by
  rcases h.fits with failed | ⟨rest, fits⟩
  · rw [next_of_failed failed] at failing
    cases failing
  · obtain step | ⟨c, step⟩ | ⟨_, _, _, step, -⟩ := next_cases fits
    · rw [step] at failing
      cases failing
    · rw [step] at failing
      cases failing
      exact ⟨c, rfl⟩
    · rw [step] at failing
      cases failing

/-- **A tokenizer gives exactly what the scan finds**, and however often it is asked, no step goes
    wrong but by a character that no lexeme begins with: the text is never cut inside a character, no
    token is looked for at its end, and every number that is read is one. -/
theorem agrees_with_scan (source : String) :
    (∀ found : Scan, (start source).Yields found ↔ found = scan source) ∧
    ∀ tokenizer, Reached source tokenizer → ∀ fault, tokenizer.next.1 = some (.error fault) →
      ∃ c, fault = .stray c := by
  have yields : (start source).Yields (scan source) := by
    have fits := yields_of_fits (fits_start source)
    rwa [show (start source).position = 0 from rfl, Nat.add_zero, scanFrom_start] at fits
  refine ⟨fun found => ⟨fun h => h.unique yields, ?_⟩, fun _ reached _ => reached.stray⟩
  rintro rfl
  exact yields

end Tokenizer

end NumScript
