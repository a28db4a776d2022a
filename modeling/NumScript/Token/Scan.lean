import NumScript.Token

/-!
# From characters to tokens

A script is a row of lexemes with blanks before, between and after them. `lexeme?` reads the one
lexeme that a text begins with, always the longest one; `scanFrom` reads them all. A scan keeps the
tokens it found and, if a character was met that no lexeme begins with, that character and its
distance from the beginning in bytes of UTF-8 (`Scan`).

The facts at the end of section 1 say that a lexeme is a beginning of the text it was read from and
is never empty; the second one is what ends the loop.
-/

namespace NumScript

/-! ## 1. One lexeme -/

/-- The characters a name may begin with. -/
def isNameStart (c : Char) : Bool := c.isAlpha || c == '_'

/-- The characters a name goes on with. -/
def isNamePart (c : Char) : Bool := c.isAlphanum || c == '_'

/-- A lexeme at the beginning of a text: its token, its characters and the text after it. -/
structure Lexeme where
  /-- What the lexeme stands for. -/
  token : Token
  /-- The characters of the lexeme. -/
  text : List Char
  /-- What follows. -/
  rest : List Char

/-- A keyword or a name: all the characters that can go on a name. -/
def Lexeme.word (cs : List Char) : Lexeme :=
  let text := cs.takeWhile isNamePart
  let word := String.ofList text
  let token := match Keyword.ofSpelling? word with
    | some keyword => .keyword keyword
    | none => .identifier word
  ⟨token, text, cs.dropWhile isNamePart⟩

/-- A number: digits, and a fraction if a point with a digit after it follows. -/
def Lexeme.number (cs : List Char) : Lexeme :=
  let whole := cs.takeWhile Char.isDigit
  let rest := cs.dropWhile Char.isDigit
  match rest with
  | '.' :: after =>
    let fraction := after.takeWhile Char.isDigit
    if fraction.isEmpty then ⟨.number (Binary64.ofDecimal whole []), whole, rest⟩
    else ⟨.number (Binary64.ofDecimal whole fraction), whole ++ '.' :: fraction,
      after.dropWhile Char.isDigit⟩
  | _ => ⟨.number (Binary64.ofDecimal whole []), whole, rest⟩

/-- The characters that are a token alone, whatever follows. -/
def plainToken? : Char → Option Token
  | '+' => some (.operator .add)
  | '-' => some (.operator .subtract)
  | '*' => some (.operator .multiply)
  | '/' => some (.operator .divide)
  | '(' => some (.mark .leftParen)
  | ')' => some (.mark .rightParen)
  | '\x7b' => some (.mark .leftBrace)
  | '\x7d' => some (.mark .rightBrace)
  | ';' => some (.mark .semicolon)
  | ',' => some (.mark .comma)
  | _ => none

/-- The characters that an equals sign after them changes: the token without the sign, if there is
    one, and the token with it. -/
def equalsToken? : Char → Option (Option Token × Token)
  | '<' => some (some (.operator .less), .operator .lessEqual)
  | '>' => some (some (.operator .greater), .operator .greaterEqual)
  | '=' => some (some (.mark .assign), .operator .equal)
  | '!' => some (none, .operator .notEqual)
  | _ => none

/-- A lexeme that is neither a number nor a word. -/
def Lexeme.sign? (c : Char) (rest : List Char) : Option Lexeme :=
  match plainToken? c with
  | some token => some ⟨token, [c], rest⟩
  | none =>
    match equalsToken? c, rest with
    | some (_, long), '=' :: after => some ⟨long, [c, '='], after⟩
    | some (some short, _), _ => some ⟨short, [c], rest⟩
    | _, _ => none

/-- The lexeme that begins with this character, which the given text follows. -/
def lexeme? (c : Char) (rest : List Char) : Option Lexeme :=
  if c.isDigit then some (.number (c :: rest))
  else if isNameStart c then some (.word (c :: rest))
  else Lexeme.sign? c rest

theorem Lexeme.text_append_rest_word (cs : List Char) :
    (Lexeme.word cs).text ++ (Lexeme.word cs).rest = cs := by
  simp [Lexeme.word]

theorem Lexeme.text_append_rest_number (cs : List Char) :
    (Lexeme.number cs).text ++ (Lexeme.number cs).rest = cs := by
  have parts := List.takeWhile_append_dropWhile (p := Char.isDigit) (l := cs)
  unfold Lexeme.number
  dsimp only
  split
  · rename_i after point
    rw [point] at parts
    split
    · rw [point]
      exact parts
    · simp only [List.append_assoc, List.cons_append, List.takeWhile_append_dropWhile]
      exact parts
  · exact parts

theorem Lexeme.text_append_rest_sign {c : Char} {cs : List Char} {lexeme : Lexeme}
    (h : Lexeme.sign? c cs = some lexeme) : lexeme.text ++ lexeme.rest = c :: cs := by
  unfold Lexeme.sign? at h
  split at h
  · cases h
    rfl
  · split at h <;> cases h <;> rfl

/-- **A lexeme is a beginning of the text it was read from.** -/
theorem text_append_rest {c : Char} {cs : List Char} {lexeme : Lexeme}
    (h : lexeme? c cs = some lexeme) : lexeme.text ++ lexeme.rest = c :: cs := by
  unfold lexeme? at h
  split at h
  · cases h
    exact Lexeme.text_append_rest_number _
  · split at h
    · cases h
      exact Lexeme.text_append_rest_word _
    · exact Lexeme.text_append_rest_sign h

theorem isNamePart_of_isNameStart {c : Char} (h : isNameStart c = true) : isNamePart c = true := by
  simp only [isNameStart, isNamePart, Char.isAlphanum, Bool.or_eq_true] at h ⊢
  rcases h with h | h
  · exact Or.inl (Or.inl h)
  · exact Or.inr h

/-- **A lexeme is never empty.** -/
theorem text_ne_nil {c : Char} {cs : List Char} {lexeme : Lexeme}
    (h : lexeme? c cs = some lexeme) : lexeme.text ≠ [] := by
  unfold lexeme? at h
  split at h
  · rename_i digit
    cases h
    unfold Lexeme.number
    dsimp only
    rw [List.takeWhile_cons_of_pos digit]
    split
    · split <;> simp
    · simp
  · split at h
    · rename_i start
      cases h
      simp [Lexeme.word, List.takeWhile_cons_of_pos (isNamePart_of_isNameStart start)]
    · unfold Lexeme.sign? at h
      split at h
      · cases h
        simp
      · split at h <;> cases h <;> simp

/-- What follows a lexeme is shorter than the text it was read from. -/
theorem length_rest_lt {c : Char} {cs : List Char} {lexeme : Lexeme}
    (h : lexeme? c cs = some lexeme) : lexeme.rest.length < (c :: cs).length := by
  have whole := congrArg List.length (text_append_rest h)
  have some_text := List.length_pos_iff.mpr (text_ne_nil h)
  rw [List.length_append] at whole
  omega

/-! ## 2. The scan -/

/-- A character that no lexeme begins with. -/
structure ScanError where
  /-- Its distance from the beginning of the script, in bytes of UTF-8. -/
  offset : Nat
  /-- The character. -/
  character : Char
deriving DecidableEq

/-- The tokens of a script, up to its end or to the first character that no lexeme begins with. -/
structure Scan where
  /-- The tokens found. -/
  tokens : List Token
  /-- Why the scan stopped before the end, if it did. -/
  stop : Option ScanError
deriving DecidableEq

/-- One more token in front. -/
def Scan.cons (token : Token) (scan : Scan) : Scan := ⟨token :: scan.tokens, scan.stop⟩

/-- The number of bytes of a text in UTF-8. -/
def byteLength : List Char → Nat
  | [] => 0
  | c :: rest => c.utf8Size + byteLength rest

@[simp] theorem byteLength_append (first second : List Char) :
    byteLength (first ++ second) = byteLength first + byteLength second := by
  induction first with
  | nil => simp [byteLength]
  | cons c rest ih =>
    simp only [List.cons_append, byteLength, ih]
    omega

theorem length_dropWhile_le (p : Char → Bool) : ∀ cs : List Char,
    (cs.dropWhile p).length ≤ cs.length
  | [] => Nat.le_refl _
  | c :: cs => by
    rw [List.dropWhile_cons]
    split
    · exact Nat.le_succ_of_le (length_dropWhile_le p cs)
    · exact Nat.le_refl _

set_option linter.unusedVariables false in
/-- All tokens of a text that begins so many bytes into the script. -/
def scanFrom (offset : Nat) (cs : List Char) : Scan :=
  let start := offset + byteLength (cs.takeWhile isBlank)
  match h : cs.dropWhile isBlank with
  | [] => ⟨[], none⟩
  | c :: rest =>
    match found : lexeme? c rest with
    | none => ⟨[], some ⟨start, c⟩⟩
    | some lexeme =>
      (scanFrom (start + byteLength lexeme.text) lexeme.rest).cons lexeme.token
termination_by cs.length
decreasing_by
  have shorter := length_rest_lt found
  have skipped := length_dropWhile_le isBlank cs
  rw [h] at skipped
  omega

/-- All tokens of a script. -/
def scan (source : String) : Scan := scanFrom 0 source.toList

/-- All tokens of a script, or the character at which the scan stopped. -/
def tokenize (source : String) : Except ScanError (List Token) :=
  match (scan source).stop with
  | none => .ok (scan source).tokens
  | some error => .error error

theorem tokenize_eq_ok_iff {source : String} {tokens : List Token} :
    tokenize source = .ok tokens ↔ scan source = ⟨tokens, none⟩ := by
  unfold tokenize
  cases scan source with
  | mk found stop => cases stop <;> simp

theorem tokenize_eq_error_iff {source : String} {error : ScanError} :
    tokenize source = .error error ↔ (scan source).stop = some error := by
  unfold tokenize
  cases scan source with
  | mk found stop => cases stop <;> simp

end NumScript
