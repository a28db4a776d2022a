import Mathlib
import NumScript.Proofs.Token.Concatenation

/-!
# Tokens with blanks between them

A row of tokens is written down by a lexeme for each of them, with a blank at least between every two
(`Spaced`). A token may have several lexemes, as a number has, and the blanks may be of any kind and
number; but whatever is chosen, a scan of the text finds these tokens again (`scan_of_spaced`).

What makes this simple is that a lexeme is read as it stands wherever the character behind it does not
go on it (`IsLexeme.readsAlone`), and a blank goes on no lexeme.
-/

namespace NumScript

/-- The text begins with a blank, or is empty. -/
def Apart (text : List Char) : Prop := ∀ c ∈ text.head?, isBlank c = true

/-- The texts that say these tokens, one lexeme after the other with blanks between them. -/
inductive Spaced : List Token → List Char → Prop
  | blanks {blanks : List Char} (blank : ∀ c ∈ blanks, isBlank c = true) : Spaced [] blanks
  | lexeme {blanks text following : List Char} {token : Token} {tokens : List Token}
      (blank : ∀ c ∈ blanks, isBlank c = true) (lexeme : IsLexeme text token)
      (apart : Apart following) (more : Spaced tokens following) :
      Spaced (token :: tokens) (blanks ++ text ++ following)

/-- A token that can be written down. -/
def Token.Legible (token : Token) : Prop := ∃ text, IsLexeme text token

/-- A row of tokens that can be written down. -/
def LegibleRow (tokens : List Token) : Prop := ∀ token ∈ tokens, token.Legible

@[simp] theorem legible_keyword (word : Keyword) : (Token.keyword word).Legible :=
  ⟨_, .keyword word⟩

@[simp] theorem legible_operator (op : BinaryOperator) : (Token.operator op).Legible :=
  ⟨_, .operator op⟩

@[simp] theorem legible_mark (sign : Mark) : (Token.mark sign).Legible := ⟨_, .mark sign⟩

@[simp] theorem legibleRow_nil : LegibleRow [] := nofun

@[simp] theorem legibleRow_cons {token : Token} {tokens : List Token} :
    LegibleRow (token :: tokens) ↔ token.Legible ∧ LegibleRow tokens := List.forall_mem_cons

@[simp] theorem legibleRow_append {first second : List Token} :
    LegibleRow (first ++ second) ↔ LegibleRow first ∧ LegibleRow second := List.forall_mem_append

theorem legibleRow_flatten {rows : List (List Token)} :
    LegibleRow rows.flatten ↔ ∀ row ∈ rows, LegibleRow row := List.forall_mem_flatten

/-- Lexemes with one space before each of them. -/
theorem spaced_of_lexemes {tokens : List Token} {texts : List (List Char)}
    (h : List.Forall₂ (fun token text => IsLexeme text token) tokens texts) :
    Apart (texts.flatMap fun text => ' ' :: text) ∧
      Spaced tokens (texts.flatMap fun text => ' ' :: text) := by
  induction h with
  | nil => exact ⟨nofun, .blanks nofun⟩
  | @cons token text tokens texts lexeme _ ih =>
    have space : ∀ c ∈ [' '], isBlank c = true := List.forall_mem_singleton.mpr rfl
    refine ⟨?_, .lexeme space lexeme ih.1 ih.2⟩
    intro c first
    cases first
    rfl

/-- Tokens that can be written down can be written down one after the other. -/
theorem exists_spaced {tokens : List Token} (legible : LegibleRow tokens) :
    ∃ text, Spaced tokens text := by
  have texts : ∃ texts, List.Forall₂ (fun token text => IsLexeme text token) tokens texts := by
    induction tokens with
    | nil => exact ⟨[], .nil⟩
    | cons token tokens ih =>
      obtain ⟨⟨text, lexeme⟩, others⟩ := legibleRow_cons.mp legible
      obtain ⟨texts, lexemes⟩ := ih others
      exact ⟨text :: texts, .cons lexeme lexemes⟩
  obtain ⟨texts, lexemes⟩ := texts
  exact ⟨_, (spaced_of_lexemes lexemes).2⟩

/-! ## 1. What goes on a lexeme -/

/-- Whether a character directly behind a lexeme of this token would be read together with it: the
    characters of names behind a word, digits behind a number, and the equals sign behind an operator
    that also exists with one. -/
def Token.GoesOn : Token → Char → Prop
  | .keyword _, c | .identifier _, c => NameStart c ∨ Digit c
  | .number _, c => Digit c
  | .operator op, c => (op = .less ∨ op = .greater) ∧ c = '='
  | .mark sign, c => sign = .assign ∧ c = '='

/-- A lexeme of this token ends before the text. A point goes on nothing by itself, but behind a number
    it may begin a fraction. -/
def Token.EndsBefore (token : Token) (text : List Char) : Prop :=
  ∀ c ∈ text.head?, c ≠ '.' ∧ ¬ token.GoesOn c

theorem toNat_of_isBlank {c : Char} (h : isBlank c = true) : c.toNat ≤ 32 ∨ 133 ≤ c.toNat := by
  simp only [isBlank, inRanges, blankRanges, List.any_cons, List.any_nil, Bool.or_eq_true,
    Bool.and_eq_true, decide_eq_true_eq, Bool.or_false] at h
  omega

theorem not_isNamePart_of_isBlank {c : Char} (h : isBlank c = true) : isNamePart c = false := by
  have blank : c.val.toNat ≤ 32 ∨ 133 ≤ c.val.toNat := toNat_of_isBlank h
  rw [← Bool.not_eq_true, isNamePart_iff]
  simp only [NameStart, Digit, Char.le_def, UInt32.le_iff_toNat_le]
  have upper : 'A'.val.toNat = 65 ∧ 'Z'.val.toNat = 90 := ⟨rfl, rfl⟩
  have lower : 'a'.val.toNat = 97 ∧ 'z'.val.toNat = 122 := ⟨rfl, rfl⟩
  have digits : '0'.val.toNat = 48 ∧ '9'.val.toNat = 57 := ⟨rfl, rfl⟩
  rintro ((letter | letter | rfl) | digit)
  · omega
  · omega
  · have : '_'.val.toNat = 95 := rfl
    omega
  · omega

theorem not_isBlank_of_isNamePart {c : Char} (part : isNamePart c = true) : isBlank c = false := by
  rw [← Bool.not_eq_true]
  intro blank
  rw [not_isNamePart_of_isBlank blank] at part
  cases part

/-- **A blank goes on no lexeme.** -/
theorem Token.not_goesOn_of_isBlank (token : Token) {c : Char} (blank : isBlank c = true) :
    ¬ token.GoesOn c := by
  have part := not_isNamePart_of_isBlank blank
  rw [← Bool.not_eq_true, isNamePart_iff] at part
  have noEquals : c ≠ '=' := by
    rintro rfl
    exact absurd blank (by decide)
  cases token with
  | keyword word => exact part
  | identifier name => exact part
  | number value => exact fun digit => part (.inr digit)
  | operator op => exact fun equals => noEquals equals.2
  | mark sign => exact fun equals => noEquals equals.2

theorem Apart.endsBefore {text : List Char} (apart : Apart text) (token : Token) :
    token.EndsBefore text := by
  intro c first
  refine ⟨?_, token.not_goesOn_of_isBlank (apart c first)⟩
  rintro rfl
  exact absurd (apart '.' first) (by decide)

/-! ## 2. One lexeme -/

section Ended

variable {text following : List Char}

theorem takeWhile_of_ended {p : Char → Bool} (each : ∀ c ∈ text, p c = true)
    (ended : ∀ c ∈ following.head?, ¬ p c = true) :
    (text ++ following).takeWhile p = text ∧ (text ++ following).dropWhile p = following := by
  rw [List.takeWhile_append_of_pos each, List.dropWhile_append_of_pos each]
  cases following with
  | nil => exact ⟨List.append_nil _, rfl⟩
  | cons c rest =>
    have stops := ended c rfl
    rw [List.takeWhile_cons_of_neg stops, List.dropWhile_cons_of_neg stops]
    exact ⟨List.append_nil _, rfl⟩

theorem word_of_ended (each : ∀ c ∈ text, isNamePart c = true)
    (ended : ∀ c ∈ following.head?, ¬ isNamePart c = true) :
    Lexeme.word (text ++ following) =
      ⟨match Keyword.ofSpelling? (String.ofList text) with
        | some keyword => .keyword keyword
        | none => .identifier (String.ofList text), text, following⟩ := by
  obtain ⟨taken, dropped⟩ := takeWhile_of_ended each ended
  rewrite [Lexeme.word, taken, dropped]
  rfl

theorem number_of_ended (each : ∀ d ∈ text, Digit d)
    (ended : ∀ c ∈ following.head?, c ≠ '.' ∧ ¬ Digit c) :
    Lexeme.number (text ++ following) =
      ⟨.number (.ofDecimal text []), text, following⟩ := by
  have digits : ∀ d ∈ text, d.isDigit = true := fun d mem => isDigit_iff.mpr (each d mem)
  obtain ⟨taken, dropped⟩ := takeWhile_of_ended digits fun c first => by
    rw [isDigit_iff]
    exact (ended c first).2
  unfold Lexeme.number
  rw [taken, dropped]
  cases following with
  | nil => rfl
  | cons c rest =>
    have noPoint : c ≠ '.' := (ended c rfl).1
    simp [noPoint]

theorem fraction_of_ended {whole fraction : List Char} (each : ∀ d ∈ whole, Digit d)
    (nonempty : fraction ≠ []) (each' : ∀ d ∈ fraction, Digit d)
    (ended : ∀ c ∈ following.head?, ¬ Digit c) :
    Lexeme.number (whole ++ '.' :: fraction ++ following) =
      ⟨.number (.ofDecimal whole fraction), whole ++ '.' :: fraction, following⟩ := by
  have digits : ∀ d ∈ whole, d.isDigit = true := fun d mem => isDigit_iff.mpr (each d mem)
  have digits' : ∀ d ∈ fraction, d.isDigit = true := fun d mem => isDigit_iff.mpr (each' d mem)
  obtain ⟨taken, dropped⟩ := @takeWhile_of_ended whole ('.' :: (fraction ++ following)) _ digits
    fun c first => by
      cases first
      decide
  obtain ⟨taken', dropped'⟩ := takeWhile_of_ended digits' fun c first => by
    rw [isDigit_iff]
    exact ended c first
  have someDigit : fraction.isEmpty = false := List.isEmpty_eq_false_iff.mpr nonempty
  rw [List.append_assoc, List.cons_append]
  unfold Lexeme.number
  simp only [taken, dropped, taken', dropped', someDigit, if_neg Bool.false_ne_true]

/-- A sign that an equals sign may follow is read alone where none follows. -/
theorem lexeme?_of_ended {c : Char} {short long : Token} (other : c.isDigit = false)
    (other' : isNameStart c = false) (plain : plainToken? c = none)
    (equals : equalsToken? c = some (some short, long))
    (ended : ∀ d ∈ following.head?, d ≠ '=') :
    lexeme? c following = some ⟨short, [c], following⟩ := by
  rw [lexeme?, other, other', if_neg Bool.false_ne_true, if_neg Bool.false_ne_true]
  unfold Lexeme.sign?
  rw [plain, equals]
  cases following with
  | nil => rfl
  | cons d rest =>
    have noEquals : d ≠ '=' := ended d rfl
    simp [noEquals]

/-- What a lexeme is read as when nothing behind it goes on it. -/
def ReadsAlone (text : List Char) (token : Token) (following : List Char) : Prop :=
  ∃ c cs, text = c :: cs ∧ isBlank c = false ∧
    lexeme? c (cs ++ following) = some ⟨token, text, following⟩

theorem readsAlone_word {c : Char} {cs : List Char} {token : Token} (start : NameStart c)
    (parts : ∀ d ∈ cs, NameStart d ∨ Digit d)
    (same : (match Keyword.ofSpelling? (String.ofList (c :: cs)) with
      | some keyword => .keyword keyword
      | none => .identifier (String.ofList (c :: cs))) = token)
    (ended : ∀ d ∈ following.head?, ¬ (NameStart d ∨ Digit d)) :
    ReadsAlone (c :: cs) token following := by
  have each : ∀ d ∈ c :: cs, isNamePart d = true := by
    intro d mem
    rw [isNamePart_iff]
    rcases List.mem_cons.mp mem with rfl | mem
    · exact .inl start
    · exact parts d mem
  refine ⟨c, cs, rfl, not_isBlank_of_isNamePart (each c List.mem_cons_self), ?_⟩
  simp only [← isNamePart_iff] at ended
  rw [lexeme?, not_isDigit_of_nameStart start, if_neg Bool.false_ne_true,
    if_pos (isNameStart_iff.mpr start), ← List.cons_append, word_of_ended each ended, same]

theorem readsAlone_number {token : Token} (nonempty : text ≠ [])
    (first : ∀ c ∈ text.head?, Digit c)
    (read : Lexeme.number (text ++ following) = ⟨token, text, following⟩) :
    ReadsAlone text token following := by
  obtain ⟨c, cs, rfl⟩ := List.exists_cons_of_ne_nil nonempty
  have digit : Digit c := first c rfl
  refine ⟨c, cs, rfl, not_isBlank_of_isNamePart (isNamePart_iff.mpr (.inr digit)), ?_⟩
  rw [lexeme?, if_pos (isDigit_iff.mpr digit), ← List.cons_append, read]

theorem readsAlone_operator (op : BinaryOperator)
    (ended : (Token.operator op).EndsBefore following) :
    ReadsAlone op.symbol.toList (.operator op) following := by
  cases op with
  | less =>
    have noEquals : ∀ d ∈ following.head?, d ≠ '=' :=
      fun d first equal => (ended d first).2 ⟨.inl rfl, equal⟩
    exact ⟨'<', [], rfl, rfl, @lexeme?_of_ended _ '<' _ _ rfl rfl rfl rfl noEquals⟩
  | greater =>
    have noEquals : ∀ d ∈ following.head?, d ≠ '=' :=
      fun d first equal => (ended d first).2 ⟨.inr rfl, equal⟩
    exact ⟨'>', [], rfl, rfl, @lexeme?_of_ended _ '>' _ _ rfl rfl rfl rfl noEquals⟩
  | _ => exact ⟨_, _, rfl, rfl, rfl⟩

theorem readsAlone_mark (sign : Mark) (ended : (Token.mark sign).EndsBefore following) :
    ReadsAlone sign.spelling.toList (.mark sign) following := by
  cases sign with
  | assign =>
    have noEquals : ∀ d ∈ following.head?, d ≠ '=' :=
      fun d first equal => (ended d first).2 ⟨rfl, equal⟩
    exact ⟨'=', [], rfl, rfl, @lexeme?_of_ended _ '=' _ _ rfl rfl rfl rfl noEquals⟩
  | _ => exact ⟨_, _, rfl, rfl, rfl⟩

theorem ofSpelling?_spelling (word : Keyword) : Keyword.ofSpelling? word.spelling = some word := by
  cases word <;> decide

theorem ofSpelling?_eq_none {word : String} (free : ∀ keyword : Keyword, keyword.spelling ≠ word) :
    Keyword.ofSpelling? word = none := by
  refine List.find?_eq_none.mpr fun keyword _ => ?_
  simpa using free keyword

/-- **A lexeme is read as it stands where nothing behind it goes on it.** -/
theorem IsLexeme.readsAlone {token : Token} (h : IsLexeme text token)
    (ended : token.EndsBefore following) : ReadsAlone text token following := by
  cases h with
  | keyword word =>
    obtain ⟨c, cs, spelling, start, parts⟩ := keyword_spelling word
    rw [spelling]
    refine readsAlone_word start parts ?_ fun d first => (ended d first).2
    rw [← spelling, String.ofList_toList, ofSpelling?_spelling]
  | identifier start parts free =>
    refine readsAlone_word start parts ?_ fun d first => (ended d first).2
    rw [ofSpelling?_eq_none free]
  | whole nonempty each =>
    exact readsAlone_number nonempty (fun c first => each c (List.mem_of_mem_head? first))
      (number_of_ended each ended)
  | @fraction whole fraction nonempty each nonempty' each' =>
    refine readsAlone_number (by simp) (fun c first => ?_)
      (fraction_of_ended each nonempty' each' fun d first => (ended d first).2)
    refine each c (List.mem_of_mem_head? ?_)
    rw [Option.mem_def, List.head?_append_of_ne_nil _ nonempty] at first
    exact first
  | operator op => exact readsAlone_operator op ended
  | mark sign => exact readsAlone_mark sign ended

end Ended

/-! ## 3. The scan -/

/-- **The scan finds the first lexeme** and goes on behind it. -/
theorem scanFrom_of_endsBefore {blanks text following : List Char} {token : Token}
    (blank : ∀ c ∈ blanks, isBlank c = true) (lexeme : IsLexeme text token)
    (ended : token.EndsBefore following) (offset : Nat) :
    ∃ offset', scanFrom offset (blanks ++ text ++ following) =
      (scanFrom offset' following).cons token := by
  obtain ⟨c, cs, rfl, visible, read⟩ := lexeme.readsAlone ended
  have stands : (c :: (cs ++ following)).dropWhile isBlank = c :: (cs ++ following) :=
    List.dropWhile_cons_of_neg (by simp [visible])
  rw [List.append_assoc, scanFrom_blanks blank, List.cons_append, scanFrom_of_lexeme stands read]
  exact ⟨_, rfl⟩

/-- **Tokens with blanks between them are found again.** -/
theorem scanFrom_of_spaced {tokens : List Token} {text : List Char} (h : Spaced tokens text) :
    ∀ offset : Nat, scanFrom offset text = ⟨tokens, none⟩ := by
  induction h with
  | blanks blank =>
    intro offset
    exact scanFrom_of_blank (List.dropWhile_eq_nil_iff.mpr blank)
  | lexeme blank lexeme apart more ih =>
    intro offset
    obtain ⟨offset', found⟩ := scanFrom_of_endsBefore blank lexeme (apart.endsBefore _) offset
    rw [found, ih]
    rfl

theorem scan_of_spaced {tokens : List Token} {source : String} (h : Spaced tokens source.toList) :
    scan source = ⟨tokens, none⟩ := scanFrom_of_spaced h 0

end NumScript
