import Mathlib
import NumScript.Token.Scan

/-!
# A scan splits its script

The lexical grammar says which texts are lexemes, and of which token (`IsLexeme`). It is said without
the scan and leaves open which of several lexemes is read where one is the beginning of another.

A scan splits a beginning of the script into blanks and lexemes by turns (`Factorizes`), and each
lexeme is the longest one that its place allows. The text behind it, up to the very end of the script,
belongs to this condition, so it is kept beside the part that is split. If the scan stops early, then
at a character where no lexeme begins, and the offset that it reports is the number of bytes before
this character (`factorizes_scan`).
-/

namespace NumScript

/-! ## 1. The lexical grammar -/

/-- A letter or an underscore. -/
def NameStart (c : Char) : Prop := ('A' ≤ c ∧ c ≤ 'Z') ∨ ('a' ≤ c ∧ c ≤ 'z') ∨ c = '_'

/-- A decimal digit. -/
def Digit (c : Char) : Prop := '0' ≤ c ∧ c ≤ '9'

/-- The lexemes and their tokens. -/
inductive IsLexeme : List Char → Token → Prop
  | keyword (word : Keyword) : IsLexeme word.spelling.toList (.keyword word)
  | identifier {c : Char} {cs : List Char} (start : NameStart c)
      (parts : ∀ d ∈ cs, NameStart d ∨ Digit d)
      (free : ∀ word : Keyword, word.spelling ≠ String.ofList (c :: cs)) :
      IsLexeme (c :: cs) (.identifier (String.ofList (c :: cs)))
  | whole {digits : List Char} (nonempty : digits ≠ []) (each : ∀ d ∈ digits, Digit d) :
      IsLexeme digits (.number (.ofDecimal digits []))
  | fraction {whole fraction : List Char} (nonempty : whole ≠ []) (each : ∀ d ∈ whole, Digit d)
      (nonempty' : fraction ≠ []) (each' : ∀ d ∈ fraction, Digit d) :
      IsLexeme (whole ++ '.' :: fraction) (.number (.ofDecimal whole fraction))
  | operator (op : BinaryOperator) : IsLexeme op.symbol.toList (.operator op)
  | mark (sign : Mark) : IsLexeme sign.spelling.toList (.mark sign)

/-- `Factorizes rest text tokens`: in a script that goes on with `rest`, the text before it consists
    of blanks and of lexemes for these tokens by turns, each of them the longest lexeme that begins
    where it begins. -/
inductive Factorizes (rest : List Char) : List Char → List Token → Prop
  | blanks {blanks : List Char} (blank : ∀ c ∈ blanks, isBlank c = true) : Factorizes rest blanks []
  | lexeme {blanks text following : List Char} {token : Token} {tokens : List Token}
      (blank : ∀ c ∈ blanks, isBlank c = true) (lexeme : IsLexeme text token)
      (longest : ∀ longer other, longer <+: text ++ following ++ rest → IsLexeme longer other →
        longer.length ≤ text.length)
      (more : Factorizes rest following tokens) :
      Factorizes rest (blanks ++ text ++ following) (token :: tokens)

/-! ## 2. Classes of characters -/

theorem isDigit_iff {c : Char} : c.isDigit = true ↔ Digit c := by
  simp [Char.isDigit, Digit, Char.le_def]

theorem isNameStart_iff {c : Char} : isNameStart c = true ↔ NameStart c := by
  simp [isNameStart, NameStart, Char.isAlpha, Char.isUpper, Char.isLower, Char.le_def, or_assoc]

theorem isNamePart_iff {c : Char} : isNamePart c = true ↔ NameStart c ∨ Digit c := by
  rw [← isNameStart_iff, ← isDigit_iff]
  simp only [isNamePart, isNameStart, Char.isAlphanum, Bool.or_eq_true]
  exact or_right_comm

theorem not_isDigit_of_nameStart {c : Char} (h : NameStart c) : c.isDigit = false := by
  rw [← Bool.not_eq_true, isDigit_iff]
  intro digit
  simp only [NameStart, Digit, Char.le_def, UInt32.le_iff_toNat_le] at h digit
  have digits : '0'.val.toNat = 48 ∧ '9'.val.toNat = 57 := ⟨rfl, rfl⟩
  have letters : 'A'.val.toNat = 65 ∧ 'a'.val.toNat = 97 := ⟨rfl, rfl⟩
  rcases h with h | h | rfl
  · omega
  · omega
  · have : '_'.val.toNat = 95 := rfl
    omega

/-! ## 3. What is read is a lexeme -/

theorem spelling_of_ofSpelling? {word : String} {keyword : Keyword}
    (h : Keyword.ofSpelling? word = some keyword) : keyword.spelling = word := by
  have found := List.find?_some h
  exact beq_iff_eq.mp found

theorem spelling_ne_of_ofSpelling? {word : String} (h : Keyword.ofSpelling? word = none)
    (keyword : Keyword) : keyword.spelling ≠ word := by
  intro same
  have other := List.find?_eq_none.mp h keyword (Keyword.mem_all keyword)
  exact other (beq_iff_eq.mpr same)

theorem takeWhile_isNamePart {c : Char} {cs : List Char} (start : isNameStart c = true) :
    (c :: cs).takeWhile isNamePart = c :: cs.takeWhile isNamePart :=
  List.takeWhile_cons_of_pos (isNamePart_of_isNameStart start)

theorem isLexeme_word {c : Char} {cs : List Char} (start : isNameStart c = true) :
    IsLexeme (Lexeme.word (c :: cs)).text (Lexeme.word (c :: cs)).token := by
  unfold Lexeme.word
  dsimp only
  rw [takeWhile_isNamePart start]
  split
  · rename_i keyword found
    have same := congrArg String.toList (spelling_of_ofSpelling? found)
    rw [String.toList_ofList] at same
    rw [← same]
    exact .keyword keyword
  · rename_i unknown
    refine .identifier (isNameStart_iff.mp start) ?_ (spelling_ne_of_ofSpelling? unknown)
    intro d mem
    exact isNamePart_iff.mp (List.mem_takeWhile_imp mem)

theorem isLexeme_number {c : Char} {cs : List Char} (digit : c.isDigit = true) :
    IsLexeme (Lexeme.number (c :: cs)).text (Lexeme.number (c :: cs)).token := by
  have whole : ∀ d ∈ (c :: cs).takeWhile Char.isDigit, Digit d := fun d mem =>
    isDigit_iff.mp (List.mem_takeWhile_imp mem)
  have nonempty : (c :: cs).takeWhile Char.isDigit ≠ [] := by
    rw [List.takeWhile_cons_of_pos digit]
    exact List.cons_ne_nil _ _
  unfold Lexeme.number
  dsimp only
  split
  · rename_i after point
    split
    · exact .whole nonempty whole
    · rename_i digits
      refine .fraction nonempty whole (fun empty => digits (by rw [empty]; rfl)) fun d mem => ?_
      exact isDigit_iff.mp (List.mem_takeWhile_imp mem)
  · exact .whole nonempty whole

theorem isLexeme_sign {c : Char} {cs : List Char} {lexeme : Lexeme}
    (h : Lexeme.sign? c cs = some lexeme) : IsLexeme lexeme.text lexeme.token := by
  unfold Lexeme.sign? at h
  split at h
  · rename_i token plain
    cases h
    unfold plainToken? at plain
    split at plain <;> cases plain
    · exact .operator .add
    · exact .operator .subtract
    · exact .operator .multiply
    · exact .operator .divide
    · exact .mark .leftParen
    · exact .mark .rightParen
    · exact .mark .leftBrace
    · exact .mark .rightBrace
    · exact .mark .semicolon
    · exact .mark .comma
  · split at h
    · rename_i long after equals
      cases h
      unfold equalsToken? at equals
      split at equals <;> cases equals
      · exact .operator .lessEqual
      · exact .operator .greaterEqual
      · exact .operator .equal
      · exact .operator .notEqual
    · rename_i short long equals _
      cases h
      unfold equalsToken? at equals
      split at equals <;> cases equals
      · exact .operator .less
      · exact .operator .greater
      · exact .mark .assign
    · cases h

/-- **What is read is a lexeme of its token.** -/
theorem isLexeme_of_lexeme? {c : Char} {cs : List Char} {lexeme : Lexeme}
    (h : lexeme? c cs = some lexeme) : IsLexeme lexeme.text lexeme.token := by
  unfold lexeme? at h
  split at h
  · rename_i digit
    cases h
    exact isLexeme_number digit
  · split at h
    · rename_i start
      cases h
      exact isLexeme_word start
    · exact isLexeme_sign h

/-! ## 4. The longest lexeme is read -/

theorem length_le_takeWhile {p : Char → Bool} {text : List Char} (each : ∀ c ∈ text, p c = true)
    (after : List Char) : text.length ≤ ((text ++ after).takeWhile p).length := by
  rw [List.takeWhile_append_of_pos each, List.length_append]
  exact Nat.le_add_right _ _

/-- `Reads text after`: at the beginning of `text ++ after` a lexeme is read that is not shorter than
    `text`. -/
def Reads (text after : List Char) : Prop :=
  ∃ c cs lexeme, text ++ after = c :: cs ∧ lexeme? c cs = some lexeme ∧
    text.length ≤ lexeme.text.length

theorem reads_word {c : Char} {cs : List Char} (start : NameStart c)
    (parts : ∀ d ∈ cs, NameStart d ∨ Digit d) (after : List Char) : Reads (c :: cs) after := by
  have each : ∀ d ∈ c :: cs, isNamePart d = true := by
    intro d mem
    rw [isNamePart_iff]
    rcases List.mem_cons.mp mem with rfl | mem
    · exact .inl start
    · exact parts d mem
  refine ⟨c, cs ++ after, Lexeme.word (c :: (cs ++ after)), rfl, ?_, length_le_takeWhile each after⟩
  rw [lexeme?, not_isDigit_of_nameStart start, if_neg Bool.false_ne_true,
    if_pos (isNameStart_iff.mpr start)]

theorem length_le_number {whole : List Char} (each : ∀ d ∈ whole, Digit d) (after : List Char) :
    whole.length ≤ (Lexeme.number (whole ++ after)).text.length := by
  have digits : ∀ d ∈ whole, Char.isDigit d = true := fun d mem => isDigit_iff.mpr (each d mem)
  have long : whole.length ≤ ((whole ++ after).takeWhile Char.isDigit).length :=
    length_le_takeWhile digits after
  unfold Lexeme.number
  dsimp only
  split
  · split
    · exact long
    · rw [List.length_append]
      omega
  · exact long

theorem length_le_fraction {whole fraction : List Char} (each : ∀ d ∈ whole, Digit d)
    (nonempty : fraction ≠ []) (each' : ∀ d ∈ fraction, Digit d) (after : List Char) :
    (whole ++ '.' :: fraction).length ≤
      (Lexeme.number (whole ++ '.' :: fraction ++ after)).text.length := by
  have digits : ∀ d ∈ whole, d.isDigit = true := fun d mem => isDigit_iff.mpr (each d mem)
  have digits' : ∀ d ∈ fraction, d.isDigit = true := fun d mem => isDigit_iff.mpr (each' d mem)
  have taken : (whole ++ '.' :: (fraction ++ after)).takeWhile Char.isDigit = whole := by
    rw [List.takeWhile_append_of_pos digits]
    exact List.append_nil _
  have dropped : (whole ++ '.' :: (fraction ++ after)).dropWhile Char.isDigit =
      '.' :: (fraction ++ after) := by
    rw [List.dropWhile_append_of_pos digits]
    rfl
  have more := length_le_takeWhile digits' after
  have some_digit : ((fraction ++ after).takeWhile Char.isDigit).isEmpty = false := by
    rw [List.takeWhile_append_of_pos digits']
    cases fraction with
    | nil => exact absurd rfl nonempty
    | cons d ds => rfl
  rw [List.append_assoc, List.cons_append]
  unfold Lexeme.number
  simp only [taken, dropped, some_digit, if_neg Bool.false_ne_true, List.length_append,
    List.length_cons]
  omega

theorem reads_number {text : List Char} {c : Char} {cs : List Char} (first : text = c :: cs)
    (digit : Digit c) (after : List Char)
    (long : text.length ≤ (Lexeme.number (text ++ after)).text.length) : Reads text after := by
  subst first
  refine ⟨c, cs ++ after, Lexeme.number (c :: (cs ++ after)), rfl, ?_, long⟩
  rw [lexeme?, if_pos (isDigit_iff.mpr digit)]

theorem reads_single {c : Char} {after : List Char} (found : (lexeme? c after).isSome = true) :
    Reads [c] after := by
  obtain ⟨lexeme, eq⟩ := Option.isSome_iff_exists.mp found
  exact ⟨c, after, lexeme, rfl, eq, List.length_pos_iff.mpr (text_ne_nil eq)⟩

/-- A sign that an equals sign may follow is read with it or alone. -/
theorem isSome_sign {c : Char} {short long : Token} (plain : plainToken? c = none)
    (equals : equalsToken? c = some (some short, long)) (after : List Char) :
    (Lexeme.sign? c after).isSome = true := by
  unfold Lexeme.sign?
  rw [plain, equals]
  cases after with
  | nil => rfl
  | cons d after =>
    by_cases equal : d = '='
    · subst equal
      rfl
    · simp [equal]

theorem reads_operator (op : BinaryOperator) (after : List Char) : Reads op.symbol.toList after := by
  cases op with
  | add | subtract | multiply | divide => exact reads_single rfl
  | less =>
    have read : (Lexeme.sign? '<' after).isSome = true := isSome_sign rfl rfl after
    exact @reads_single '<' after read
  | greater =>
    have read : (Lexeme.sign? '>' after).isSome = true := isSome_sign rfl rfl after
    exact @reads_single '>' after read
  | lessEqual | greaterEqual | equal | notEqual => exact ⟨_, _, _, rfl, rfl, Nat.le_refl _⟩

theorem reads_mark (sign : Mark) (after : List Char) : Reads sign.spelling.toList after := by
  cases sign with
  | assign =>
    have read : (Lexeme.sign? '=' after).isSome = true := isSome_sign rfl rfl after
    exact @reads_single '=' after read
  | leftParen | rightParen | leftBrace | rightBrace | semicolon | comma => exact reads_single rfl

theorem keyword_spelling (word : Keyword) : ∃ c cs, word.spelling.toList = c :: cs ∧ NameStart c ∧
    ∀ d ∈ cs, NameStart d ∨ Digit d := by
  have all : word.spelling.toList.all isNameStart = true := by cases word <;> decide
  have parts := List.all_eq_true.mp all
  cases spelling : word.spelling.toList with
  | nil => cases word <;> cases spelling
  | cons c cs =>
    rw [spelling] at parts
    obtain ⟨start, parts⟩ := List.forall_mem_cons.mp parts
    exact ⟨c, cs, rfl, isNameStart_iff.mp start, fun d mem => .inl (isNameStart_iff.mp (parts d mem))⟩

/-- **Where a lexeme begins, one is read that is not shorter**, whatever follows. -/
theorem IsLexeme.reads {text : List Char} {token : Token} (h : IsLexeme text token)
    (after : List Char) : Reads text after := by
  cases h with
  | keyword word =>
    obtain ⟨c, cs, spelling, start, parts⟩ := keyword_spelling word
    rw [spelling]
    exact reads_word start parts after
  | identifier start parts free => exact reads_word start parts after
  | whole nonempty each =>
    obtain ⟨c, cs, rfl⟩ := List.exists_cons_of_ne_nil nonempty
    exact reads_number rfl (each c List.mem_cons_self) after (length_le_number each after)
  | fraction nonempty each nonempty' each' =>
    obtain ⟨c, cs, rfl⟩ := List.exists_cons_of_ne_nil nonempty
    exact reads_number rfl (each c List.mem_cons_self) after
      (length_le_fraction each nonempty' each' after)
  | operator op => exact reads_operator op after
  | mark sign => exact reads_mark sign after

/-- No lexeme at the beginning of a text is longer than the one that is read. -/
theorem length_le_of_lexeme? {c : Char} {cs : List Char} {lexeme : Lexeme}
    (h : lexeme? c cs = some lexeme) {longer : List Char} {other : Token}
    (begins : longer <+: c :: cs) (isLexeme : IsLexeme longer other) :
    longer.length ≤ lexeme.text.length := by
  obtain ⟨after, eq⟩ := begins
  obtain ⟨c', cs', lexeme', eq', read, long⟩ := isLexeme.reads after
  cases eq.symm.trans eq'
  cases h.symm.trans read
  exact long

/-- Where nothing is read, no lexeme begins. -/
theorem not_isLexeme_of_lexeme? {c : Char} {cs : List Char} (h : lexeme? c cs = none)
    {text : List Char} {token : Token} (begins : text <+: c :: cs) : ¬ IsLexeme text token := by
  intro isLexeme
  obtain ⟨after, eq⟩ := begins
  obtain ⟨c', cs', lexeme', eq', read, -⟩ := isLexeme.reads after
  cases eq.symm.trans eq'
  cases h.symm.trans read

/-! ## 5. The scan -/

/-- Where a scan ends that has come so far: at the end of the text, or at a character that is not
    blank and with which no lexeme begins. -/
inductive StopsAt (offset : Nat) : List Char → Option ScanError → Prop
  | finished : StopsAt offset [] none
  | stuck {c : Char} {cs : List Char} (visible : isBlank c = false)
      (noLexeme : ∀ text token, text <+: c :: cs → ¬ IsLexeme text token) :
      StopsAt offset (c :: cs) (some ⟨offset, c⟩)

theorem blank_takeWhile (cs : List Char) : ∀ c ∈ cs.takeWhile isBlank, isBlank c = true :=
  fun _ mem => List.mem_takeWhile_imp mem

theorem not_isBlank_of_dropWhile {c : Char} {cs rest : List Char}
    (h : cs.dropWhile isBlank = c :: rest) : isBlank c = false := by
  have first := List.head?_dropWhile_not isBlank cs
  rw [h] at first
  simpa using first

/-- **A scan splits a beginning of its text**, and ends where nothing more can be split off. -/
theorem factorizes_scanFrom (offset : Nat) (cs : List Char) :
    ∃ text rest, cs = text ++ rest ∧ Factorizes rest text (scanFrom offset cs).tokens ∧
      StopsAt (offset + byteLength text) rest (scanFrom offset cs).stop := by
  fun_induction scanFrom offset cs with
  | case1 offset cs ended =>
    have whole := List.takeWhile_append_dropWhile (p := isBlank) (l := cs)
    rw [ended] at whole
    exact ⟨cs.takeWhile isBlank, [], whole.symm, .blanks (blank_takeWhile cs), .finished⟩
  | case2 offset cs start c rest dropped nothing =>
    have whole := List.takeWhile_append_dropWhile (p := isBlank) (l := cs)
    rw [dropped] at whole
    refine ⟨cs.takeWhile isBlank, c :: rest, whole.symm, .blanks (blank_takeWhile cs), ?_⟩
    exact .stuck (not_isBlank_of_dropWhile dropped)
      fun text token begins => not_isLexeme_of_lexeme? nothing begins
  | case3 offset cs start c rest dropped lexeme found ih =>
    obtain ⟨following, left, eq, factorizes, stops⟩ := ih
    have parts := text_append_rest found
    have whole := List.takeWhile_append_dropWhile (p := isBlank) (l := cs)
    rw [dropped, ← parts, eq] at whole
    refine ⟨cs.takeWhile isBlank ++ lexeme.text ++ following, left, ?_, ?_, ?_⟩
    · simp only [List.append_assoc]
      exact whole.symm
    · refine .lexeme (blank_takeWhile cs) (isLexeme_of_lexeme? found) ?_ factorizes
      intro longer other begins isLexeme
      rw [List.append_assoc, ← eq, parts] at begins
      exact length_le_of_lexeme? found begins isLexeme
    · have far : offset + byteLength (cs.takeWhile isBlank ++ lexeme.text ++ following) =
          start + byteLength lexeme.text + byteLength following := by
        simp only [byteLength_append, start]
        omega
      rw [far]
      exact stops

theorem byteLength_eq_utf8ByteSize : ∀ cs : List Char,
    byteLength cs = (String.ofList cs).utf8ByteSize
  | [] => rfl
  | c :: cs => by
    rw [byteLength, byteLength_eq_utf8ByteSize cs, String.utf8ByteSize_ofList,
      String.utf8ByteSize_ofList, String.utf8Len_cons, Nat.add_comm]

/-- **A scan splits its script exactly.** The tokens come from blanks and longest lexemes, by turns,
    that make up a beginning of the script; if there is no error, they make up the whole script.
    Otherwise the error lies directly behind them: its offset is their length in bytes and the
    boundary of a character, the character there is the one reported, it is not blank, and no lexeme
    begins with it; in particular it is never a digit, and never the end of the script. -/
theorem factorizes_scan (source : String) :
    ∃ text rest, source.toList = text ++ rest ∧ Factorizes rest text (scan source).tokens ∧
      (∀ tokens, tokenize source = .ok tokens → tokens = (scan source).tokens ∧ rest = []) ∧
      ∀ error, tokenize source = .error error →
        error.offset = (String.ofList text).utf8ByteSize ∧
        error.offset < source.utf8ByteSize ∧
        (⟨error.offset⟩ : String.Pos.Raw).IsValid source ∧
        String.Pos.Raw.get? source ⟨error.offset⟩ = some error.character ∧
        isBlank error.character = false ∧ ¬ Digit error.character ∧
        ∀ lexeme token, lexeme <+: rest → ¬ IsLexeme lexeme token := by
  obtain ⟨text, rest, eq, factorizes, stops⟩ := factorizes_scanFrom 0 source.toList
  refine ⟨text, rest, eq, factorizes, ?_, ?_⟩
  · intro tokens tokenized
    have scanned := tokenize_eq_ok_iff.mp tokenized
    refine ⟨by rw [scanned], ?_⟩
    rw [show scanFrom 0 source.toList = ⟨tokens, none⟩ from scanned] at stops
    cases stops
    rfl
  · intro error failed
    rw [show (scanFrom 0 source.toList).stop = some error from tokenize_eq_error_iff.mp failed]
      at stops
    have parts : source = String.ofList text ++ String.ofList rest := by
      rw [← String.ofList_append, ← eq, String.ofList_toList]
    cases stops with
    | @stuck c cs visible noLexeme =>
      rw [Nat.zero_add, byteLength_eq_utf8ByteSize]
      refine ⟨rfl, ?_, ?_, ?_, visible, ?_, noLexeme⟩
      · show (String.ofList text).utf8ByteSize < source.utf8ByteSize
        rw [parts, String.utf8ByteSize_append, ← byteLength_eq_utf8ByteSize (c :: cs), byteLength]
        have positive := c.utf8Size_pos
        omega
      · exact String.Pos.Raw.isValid_iff_exists_append.mpr ⟨_, _, parts, rfl⟩
      · rw [parts, ← String.ofList_append, String.utf8ByteSize_ofList]
        exact String.get?_of_valid text (c :: cs)
      · intro digit
        refine noLexeme [c] _ ⟨cs, rfl⟩ (.whole (List.cons_ne_nil _ _) ?_)
        exact List.forall_mem_singleton.mpr digit

/-- A point without a digit after it ends a number and begins nothing; the first blank has two bytes. -/
theorem factorizes_barePoint :
    tokenize "\u00a0x<=1.é" = .error ⟨6, '.'⟩ ∧
    ∃ text rest, "\u00a0x<=1.é".toList = text ++ rest ∧
      Factorizes rest text (scan "\u00a0x<=1.é").tokens ∧ 6 = (String.ofList text).utf8ByteSize ∧
      String.Pos.Raw.get? "\u00a0x<=1.é" ⟨6⟩ = some '.' ∧
      ∀ lexeme token, lexeme <+: rest → ¬ IsLexeme lexeme token := by
  have failed : tokenize "\u00a0x<=1.é" = .error ⟨6, '.'⟩ := by decide +kernel
  obtain ⟨text, rest, eq, factorizes, -, stops⟩ := factorizes_scan "\u00a0x<=1.é"
  obtain ⟨offset, -, -, character, -, -, noLexeme⟩ := stops _ failed
  exact ⟨failed, text, rest, eq, factorizes, offset, character, noLexeme⟩

end NumScript
