import Mathlib
import NumScript.Compile
import NumScript.Proofs.Token.Spacing

/-!
# Arrangements of lexemes

A script is a row of lexemes with blanks around them (`Arrangement`). How many blanks there are, and
which, says nothing: between two lexemes there may even be none, unless the second one would be read
together with the first (`Word.Fuses`). So every arrangement is scanned into the tokens of its
lexemes (`Arrangement.scan_source`), and two arrangements of the same lexemes are parsed and compiled
alike.

That blanks are needed nowhere else comes from `scanFrom_of_endsBefore`. That they are needed between
two lexemes that fuse (`tokenize_pair_iff`) comes from the other side: what goes on a lexeme makes a
longer lexeme of it (`IsLexeme.exists_longer`), and a scan takes the longest.
-/

namespace NumScript

/-! ## 1. Words -/

/-- A lexeme as it is written and what it stands for. -/
structure Word where
  /-- The characters of the lexeme. -/
  text : List Char
  /-- What it stands for. -/
  token : Token
  isLexeme : IsLexeme text token

instance : DecidablePred NameStart := fun _ => inferInstanceAs (Decidable (_ ∨ _ ∨ _))

instance : DecidablePred Digit := fun _ => inferInstanceAs (Decidable (_ ∧ _))

instance (token : Token) : DecidablePred token.GoesOn := fun c =>
  match token with
  | .keyword _ | .identifier _ => inferInstanceAs (Decidable (NameStart c ∨ Digit c))
  | .number _ => inferInstanceAs (Decidable (Digit c))
  | .operator op => inferInstanceAs (Decidable ((op = .less ∨ op = .greater) ∧ c = '='))
  | .mark sign => inferInstanceAs (Decidable (sign = .assign ∧ c = '='))

/-- Whether the first character of a word goes on the word before it. -/
def Word.Fuses (word next : Word) : Prop := ∃ c ∈ next.text.head?, word.token.GoesOn c

-- by the one character, not by a search among all characters
instance (word next : Word) : Decidable (word.Fuses next) :=
  decidable_of_iff ((next.text.head?.any fun c => decide (word.token.GoesOn c)) = true) (by
    simp only [Option.any_eq_true, decide_eq_true_eq]
    rfl)

section Characters

variable {text : List Char} {token : Token}

/-- A character of a lexeme is never blank. -/
theorem IsLexeme.not_isBlank (h : IsLexeme text token) : ∀ c ∈ text, isBlank c = false := by
  have digit : ∀ c, Digit c → isBlank c = false := fun c digit =>
    not_isBlank_of_isNamePart (isNamePart_iff.mpr (.inr digit))
  have word : ∀ c cs, NameStart c → (∀ d ∈ cs, NameStart d ∨ Digit d) →
      ∀ d ∈ c :: cs, isBlank d = false := fun c cs start parts =>
    List.forall_mem_cons.mpr
      ⟨not_isBlank_of_isNamePart (isNamePart_iff.mpr (.inl start)),
        fun d mem => not_isBlank_of_isNamePart (isNamePart_iff.mpr (parts d mem))⟩
  cases h with
  | keyword keyword =>
    obtain ⟨c, cs, spelling, start, parts⟩ := keyword_spelling keyword
    rw [spelling]
    exact word c cs start parts
  | identifier start parts free => exact word _ _ start parts
  | whole nonempty each => exact fun c mem => digit c (each c mem)
  | fraction nonempty each nonempty' each' =>
    refine List.forall_mem_append.mpr ⟨fun c mem => digit c (each c mem), ?_⟩
    exact List.forall_mem_cons.mpr ⟨by decide, fun c mem => digit c (each' c mem)⟩
  | operator op =>
    have visible : (op.symbol.toList.all fun c => !isBlank c) = true := by cases op <;> decide
    simpa using visible
  | mark sign =>
    have visible : (sign.spelling.toList.all fun c => !isBlank c) = true := by cases sign <;> decide
    simpa using visible

/-- A lexeme at the end of a script is read whole. -/
theorem IsLexeme.readsLast (h : IsLexeme text token) :
    ∃ c cs, text = c :: cs ∧ lexeme? c cs = some ⟨token, text, []⟩ := by
  have ended : token.EndsBefore [] := nofun
  obtain ⟨c, cs, rfl, -, read⟩ := h.readsAlone ended
  rw [List.append_nil] at read
  exact ⟨c, cs, rfl, read⟩

/-- No lexeme begins with a point, because nothing is read from one. -/
theorem IsLexeme.ne_point (h : IsLexeme text token) : ∀ c ∈ text.head?, c ≠ '.' := by
  obtain ⟨c, cs, rfl, read⟩ := h.readsLast
  rintro d ⟨⟩ rfl
  cases read

/-- A text of name characters is a lexeme: a keyword or a name. -/
theorem exists_isLexeme_word {c : Char} {cs : List Char} (start : NameStart c)
    (parts : ∀ d ∈ cs, NameStart d ∨ Digit d) : ∃ token, IsLexeme (c :: cs) token := by
  have each : ∀ d ∈ c :: cs, isNamePart d = true := by
    simp only [isNamePart_iff]
    exact List.forall_mem_cons.mpr ⟨.inl start, parts⟩
  have lexeme := @isLexeme_word c cs (isNameStart_iff.mpr start)
  unfold Lexeme.word at lexeme
  rw [List.takeWhile_eq_self_iff.mpr each] at lexeme
  exact ⟨_, lexeme⟩

/-- **What goes on a lexeme makes a longer lexeme of it.** -/
theorem IsLexeme.exists_longer (h : IsLexeme text token) {c : Char} (more : token.GoesOn c) :
    ∃ other, IsLexeme (text ++ [c]) other := by
  cases h with
  | keyword keyword =>
    obtain ⟨d, ds, spelling, start, parts⟩ := keyword_spelling keyword
    rw [spelling]
    exact exists_isLexeme_word start
      (List.forall_mem_append.mpr ⟨parts, List.forall_mem_singleton.mpr more⟩)
  | identifier start parts free =>
    exact exists_isLexeme_word start
      (List.forall_mem_append.mpr ⟨parts, List.forall_mem_singleton.mpr more⟩)
  | whole nonempty each =>
    exact ⟨_, .whole (by simp)
      (List.forall_mem_append.mpr ⟨each, List.forall_mem_singleton.mpr more⟩)⟩
  | fraction nonempty each nonempty' each' =>
    rw [List.append_assoc, List.cons_append]
    exact ⟨_, .fraction nonempty each (by simp)
      (List.forall_mem_append.mpr ⟨each', List.forall_mem_singleton.mpr more⟩)⟩
  | operator op =>
    obtain ⟨rfl | rfl, rfl⟩ := more
    · exact ⟨_, .operator .lessEqual⟩
    · exact ⟨_, .operator .greaterEqual⟩
  | mark sign =>
    obtain ⟨rfl, rfl⟩ := more
    exact ⟨_, .operator .equal⟩

/-- Only a number is written in several ways. -/
theorem IsLexeme.text_eq (h : IsLexeme text token) {other : List Char} (h' : IsLexeme other token)
    (noNumber : ∀ value, token ≠ .number value) : other = text := by
  cases h with
  | keyword keyword =>
    cases h'
    rfl
  | @identifier c cs start parts free =>
    generalize same : String.ofList (c :: cs) = name at h'
    cases h'
    exact (String.ofList_inj.mp same).symm
  | whole nonempty each => exact absurd rfl (noNumber _)
  | fraction nonempty each nonempty' each' => exact absurd rfl (noNumber _)
  | operator op =>
    cases h'
    rfl
  | mark sign =>
    cases h'
    rfl

theorem digit_of_isLexeme {value : Binary64} (h : IsLexeme text (.number value)) :
    ∃ c ∈ text.head?, Digit c := by
  generalize number : Token.number value = token at h
  cases h with
  | whole nonempty each =>
    obtain ⟨c, cs, rfl⟩ := List.exists_cons_of_ne_nil nonempty
    exact ⟨c, rfl, each c List.mem_cons_self⟩
  | fraction nonempty each nonempty' each' =>
    obtain ⟨c, cs, rfl⟩ := List.exists_cons_of_ne_nil nonempty
    exact ⟨c, rfl, each c List.mem_cons_self⟩
  | _ => cases number

/-- Only a number begins with a digit. -/
theorem IsLexeme.exists_number (h : IsLexeme text token) {c : Char} (first : c ∈ text.head?)
    (digit : Digit c) : ∃ value, token = .number value := by
  obtain ⟨d, ds, rfl, read⟩ := h.readsLast
  cases first
  rw [lexeme?, if_pos (isDigit_iff.mpr digit)] at read
  have same : token = (Lexeme.number (c :: ds)).token :=
    congrArg Lexeme.token (Option.some.inj read).symm
  rw [same]
  unfold Lexeme.number
  dsimp only
  split
  · split
    · exact ⟨_, rfl⟩
    · exact ⟨_, rfl⟩
  · exact ⟨_, rfl⟩

end Characters

/-! ## 2. Arrangements -/

/-- Words with blanks around them: some in front, and some behind each word. Where there are none
    between two words, the words do not fuse. -/
structure Arrangement where
  /-- The blanks in front. -/
  lead : List Char
  /-- The words, each with the blanks behind it. -/
  row : List (Word × List Char)
  lead_blank : ∀ c ∈ lead, isBlank c = true
  gaps_blank : ∀ entry ∈ row, ∀ c ∈ entry.2, isBlank c = true
  separate : row.IsChain fun entry next => entry.2 = [] → ¬ entry.1.Fuses next.1

namespace Arrangement

/-- The words in order. -/
def words (arrangement : Arrangement) : List Word := arrangement.row.map Prod.fst

/-- The text of words with blanks behind each of them. -/
def rowText (row : List (Word × List Char)) : List Char :=
  row.flatMap fun entry => entry.1.text ++ entry.2

/-- The arrangement written down. -/
def source (arrangement : Arrangement) : String :=
  String.ofList (arrangement.lead ++ rowText arrangement.row)

/-- A word ends where the blanks behind it or the next word begins. -/
theorem endsBefore_rowText {word : Word} {gap : List Char} {row : List (Word × List Char)}
    (blank : ∀ c ∈ gap, isBlank c = true)
    (separate : ∀ next ∈ row.head?, gap = [] → ¬ word.Fuses next.1) :
    word.token.EndsBefore (gap ++ rowText row) := by
  cases gap with
  | cons d ds =>
    have apart : Apart (d :: ds ++ rowText row) := by
      rintro c ⟨⟩
      exact blank d List.mem_cons_self
    exact apart.endsBefore _
  | nil =>
    cases row with
    | nil => exact nofun
    | cons next row =>
      have alone := separate next rfl rfl
      obtain ⟨d, ds, text, -⟩ := next.1.isLexeme.readsLast
      have first : d ∈ next.1.text.head? := by
        rw [text]
        rfl
      intro c begins
      rw [rowText, List.nil_append, List.flatMap_cons, text] at begins
      cases begins
      exact ⟨next.1.isLexeme.ne_point d first, fun more => alone ⟨d, first, more⟩⟩

/-- **The words of a row are found again.** -/
theorem scanFrom_rowText {lead : List Char} {row : List (Word × List Char)}
    (lead_blank : ∀ c ∈ lead, isBlank c = true)
    (gaps_blank : ∀ entry ∈ row, ∀ c ∈ entry.2, isBlank c = true)
    (separate : row.IsChain fun entry next => entry.2 = [] → ¬ entry.1.Fuses next.1) :
    ∀ offset, scanFrom offset (lead ++ rowText row) = ⟨row.map (·.1.token), none⟩ := by
  induction row generalizing lead with
  | nil =>
    intro offset
    rw [rowText, List.flatMap_nil, List.append_nil]
    exact scanFrom_of_blank (List.dropWhile_eq_nil_iff.mpr lead_blank)
  | cons entry row ih =>
    intro offset
    obtain ⟨first, others⟩ := List.forall_mem_cons.mp gaps_blank
    obtain ⟨apart, chain⟩ := List.isChain_cons.mp separate
    have ended := endsBefore_rowText first apart
    obtain ⟨offset', found⟩ := scanFrom_of_endsBefore lead_blank entry.1.isLexeme ended offset
    rw [rowText, List.flatMap_cons]
    simp only [← List.append_assoc] at found ⊢
    rw [rowText] at found
    rw [found, ← rowText, ih first others chain]
    rfl

/-- **An arrangement is scanned into the tokens of its words.** -/
theorem scan_source (arrangement : Arrangement) :
    scan arrangement.source = ⟨arrangement.words.map Word.token, none⟩ := by
  rw [scan, source, String.toList_ofList, words, List.map_map]
  exact scanFrom_rowText arrangement.lead_blank arrangement.gaps_blank arrangement.separate 0

/-- Two words with nothing between them. -/
def pair (word next : Word) (alone : ¬ word.Fuses next) : Arrangement where
  lead := []
  row := [(word, []), (next, [])]
  lead_blank := nofun
  gaps_blank := by simp
  separate := by simpa using alone

end Arrangement

/-! ## 3. Where blanks are needed -/

/-- Where two words that fuse are split into lexemes of their tokens, what follows the first lexeme
    goes on it. This is plain if the first lexeme is the first word; only a number can be written in
    another way, and then the second token is a number too. -/
theorem goesOn_of_split {word next : Word} (fuses : word.Fuses next)
    {text text' following : List Char} (lexeme : IsLexeme text word.token)
    (lexeme' : IsLexeme text' next.token)
    (same : text ++ (text' ++ following) = word.text ++ next.text) :
    ∃ c ∈ (text' ++ following).head?, word.token.GoesOn c := by
  obtain ⟨c, first, more⟩ := fuses
  by_cases number : ∃ value, word.token = .number value
  · obtain ⟨value, isNumber⟩ := number
    rw [isNumber] at more ⊢
    obtain ⟨value', isNumber'⟩ := next.isLexeme.exists_number first more
    rw [isNumber'] at lexeme'
    obtain ⟨d, first', digit⟩ := digit_of_isLexeme lexeme'
    exact ⟨d, List.mem_head?_append_of_mem_head? first', digit⟩
  · push Not at number
    have standing : text = word.text := word.isLexeme.text_eq lexeme number
    rw [standing] at same
    rw [List.append_cancel_left same]
    exact ⟨c, first, more⟩

theorem not_factorizes_of_fuses {word next : Word} (fuses : word.Fuses next) :
    ¬ Factorizes [] (word.text ++ next.text) [word.token, next.token] := by
  intro factorizes
  generalize whole : word.text ++ next.text = written at factorizes
  cases factorizes with
  | @lexeme blanks text _ _ _ blank lexeme longest more =>
  cases more with
  | @lexeme blanks' text' following _ _ blank' lexeme' longest' more' =>
  -- there is no blank in the two words, so nothing was skipped
  have visible : ∀ c ∈ word.text ++ next.text, ¬ isBlank c = true := by
    simp only [Bool.not_eq_true]
    exact List.forall_mem_append.mpr ⟨word.isLexeme.not_isBlank, next.isLexeme.not_isBlank⟩
  rw [whole] at visible
  have noBlanks : blanks = [] :=
    List.eq_nil_iff_forall_not_mem.mpr fun c mem => visible c (by simp [mem]) (blank c mem)
  have noBlanks' : blanks' = [] :=
    List.eq_nil_iff_forall_not_mem.mpr fun c mem => visible c (by simp [mem]) (blank' c mem)
  subst noBlanks noBlanks'
  simp only [List.nil_append] at whole longest
  -- so the character behind the first lexeme goes on it, and a longer one could have been read
  obtain ⟨c, first, goesOn⟩ := goesOn_of_split fuses lexeme lexeme' whole.symm
  obtain ⟨other, longer⟩ := lexeme.exists_longer goesOn
  obtain ⟨rest, behind⟩ := List.head?_eq_some_iff.mp first
  have begins : text ++ [c] <+: text ++ (text' ++ following) ++ [] := by
    rw [behind]
    exact ⟨rest, by simp⟩
  have short := longest _ _ begins longer
  simp at short

/-- **Two words need a blank between them exactly if they fuse.** -/
theorem tokenize_pair_iff (word next : Word) :
    tokenize (String.ofList (word.text ++ next.text)) = .ok [word.token, next.token] ↔
      ¬ word.Fuses next := by
  rw [tokenize_eq_ok_iff]
  constructor
  · intro found fuses
    rw [scan, String.toList_ofList] at found
    obtain ⟨text, rest, parts, factorizes, stops⟩ := factorizes_scanFrom 0 (word.text ++ next.text)
    rw [found] at factorizes stops
    cases stops
    rw [List.append_nil] at parts
    exact not_factorizes_of_fuses fuses (parts ▸ factorizes)
  · intro alone
    have found := (Arrangement.pair word next alone).scan_source
    simpa [Arrangement.source, Arrangement.rowText, Arrangement.words, Arrangement.pair] using found

/-! ## 4. Arrangements of the same words -/

/-- **Blanks say nothing.** An arrangement of words is scanned into the tokens of the words, and two
    arrangements of the same words are parsed and compiled alike, also where that fails. Blanks may be
    missing between two words exactly if these do not fuse. -/
theorem arrangement_irrelevant (first second : Arrangement) (same : second.words = first.words) :
    tokenize first.source = .ok (first.words.map Word.token) ∧
    parse second.source = parse first.source ∧
    (∀ width, compile width second.source = compile width first.source) ∧
    ∀ word next : Word,
      tokenize (String.ofList (word.text ++ next.text)) = .ok [word.token, next.token] ↔
        ¬ word.Fuses next := by
  have scans : scan second.source = scan first.source := by
    rw [second.scan_source, first.scan_source, same]
  have parses : parse second.source = parse first.source := congrArg parseScan scans
  refine ⟨tokenize_eq_ok_iff.mpr first.scan_source, parses, ?_, tokenize_pair_iff⟩
  intro width
  rw [compile, compile, parses]

/-- The words of a function with an empty body. -/
def emptyFunctionWords : List Word :=
  [⟨_, _, .keyword .function⟩,
    ⟨['f'], _, .identifier (by decide) nofun (by rintro ⟨⟩ <;> decide)⟩,
    ⟨_, _, .mark .leftParen⟩, ⟨_, _, .mark .rightParen⟩,
    ⟨_, _, .mark .leftBrace⟩, ⟨_, _, .mark .rightBrace⟩]

/-- These words with a blank only between the two that fuse. -/
def narrowFunction : Arrangement where
  lead := []
  row := emptyFunctionWords.zip [[' '], [], [], [], [], []]
  lead_blank := nofun
  gaps_blank entry mem := List.all_eq_true.mp
    ((by decide +kernel : ∀ entry ∈ emptyFunctionWords.zip _, entry.2.all isBlank = true) entry mem)
  separate := by decide +kernel

/-- These words with blanks around all of them, not only of ASCII. -/
def wideFunction : Arrangement where
  lead := ['\u00a0', '\n']
  row := emptyFunctionWords.zip [['\n'], [' '], ['\t', ' '], ['\u3000'], ['\r', '\n'], ['\u2028']]
  lead_blank := List.all_eq_true.mp (by decide)
  gaps_blank entry mem := List.all_eq_true.mp
    ((by decide +kernel : ∀ entry ∈ emptyFunctionWords.zip _, entry.2.all isBlank = true) entry mem)
  separate := by decide +kernel

theorem arrangement_irrelevant_function :
    narrowFunction.words = wideFunction.words ∧
    parse "function f()\x7b\x7d" = parse "\u00a0\nfunction\nf (\t )\u3000\x7b\r\n\x7d\u2028" ∧
    ∀ width, compile width "function f()\x7b\x7d" =
      compile width "\u00a0\nfunction\nf (\t )\u3000\x7b\r\n\x7d\u2028" := by
  have narrow : narrowFunction.source = "function f()\x7b\x7d" := by decide +kernel
  have wide : wideFunction.source =
      "\u00a0\nfunction\nf (\t )\u3000\x7b\r\n\x7d\u2028" := by decide +kernel
  have same : narrowFunction.words = wideFunction.words := rfl
  obtain ⟨-, parses, compiles, -⟩ := arrangement_irrelevant wideFunction narrowFunction same
  rw [narrow, wide] at parses compiles
  exact ⟨same, parses, compiles⟩

end NumScript
