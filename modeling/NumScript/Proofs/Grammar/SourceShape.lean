import NumScript.Proofs.Automaton.Lookahead
import NumScript.Proofs.Token.Spacing

/-!
# The trees that come from scripts

Not every tree comes from a script. Those that do have a SOURCE SHAPE: a comparison is the test of a
condition and nothing else, its sides are numbers or variables, an assignment is a statement, and all
other operators are arithmetic; a name is a word that is not a keyword, and a number is the value of a
literal (`Program.SourceShaped`).

The main statement, `sourceShaped_of_parse`, is that every program that was parsed has this shape. It
is read off the rules of the grammar, and off the lexemes for what stands inside a token.
-/

namespace NumScript

/-! ## 1. The shape -/

/-- A letter or an underscore, then letters, digits and underscores; but not a keyword. -/
def IsName (name : String) : Prop :=
  (∃ c cs, name.toList = c :: cs ∧ NameStart c ∧ ∀ d ∈ cs, NameStart d ∨ Digit d) ∧
    ∀ word : Keyword, word.spelling ≠ name

instance (name : String) : Decidable (IsName name) :=
  decidable_of_iff (name.toList.head?.any isNameStart = true ∧
      name.toList.tail.all isNamePart = true ∧ ∀ word ∈ Keyword.all, word.spelling ≠ name) <| by
    have free : (∀ word ∈ Keyword.all, word.spelling ≠ name) ↔
        ∀ word : Keyword, word.spelling ≠ name :=
      ⟨fun each word => each word (Keyword.mem_all word), fun each word _ => each word⟩
    rw [IsName, free, ← and_assoc]
    cases name.toList with
    | nil => simp
    | cons c cs => simp [isNameStart_iff, isNamePart_iff]

/-- A number that can be written down. -/
def IsLiteral (value : Binary64) : Prop := ∃ text, IsLexeme text (.number value)

/-- A side of a comparison. -/
inductive Expression.Bare : Expression → Prop
  | number {value : Binary64} (literal : IsLiteral value) : Bare (.number value)
  | var {name : String} (named : IsName name) : Bare (.var name)

/-- An expression without comparisons and assignments. -/
inductive Expression.Arithmetic : Expression → Prop
  | number {value : Binary64} (literal : IsLiteral value) : Arithmetic (.number value)
  | var {name : String} (named : IsName name) : Arithmetic (.var name)
  | binary {op : BinaryOperator} {left right : Expression}
      (arithmetic : op ∈ [.add, .subtract, .multiply, .divide]) (onLeft : Arithmetic left)
      (onRight : Arithmetic right) : Arithmetic (.binary op left right)
  | unary {op : UnaryOperator} {operand : Expression} (inner : Arithmetic operand) :
      Arithmetic (.unary op operand)
  | call {callee : String} {arguments : List Expression} (named : IsName callee)
      (each : ∀ argument ∈ arguments, Arithmetic argument) : Arithmetic (.call callee arguments)

/-- A statement as scripts have it. -/
inductive Statement.SourceShaped : Statement → Prop
  | function {name : String} {params : List String} {body : List Statement} (named : IsName name)
      (paramNames : ∀ param ∈ params, IsName param)
      (each : ∀ statement ∈ body, SourceShaped statement) : SourceShaped (.function name params body)
  | declaration {name : String} (named : IsName name) :
      SourceShaped (.variableDeclaration name none)
  | initialized {name : String} {init : Expression} (named : IsName name)
      (value : init.Arithmetic) : SourceShaped (.variableDeclaration name (some init))
  | evaluation {value : Expression} (arithmetic : value.Arithmetic) :
      SourceShaped (.expression value)
  | assignment {target : String} {value : Expression} (named : IsName target)
      (arithmetic : value.Arithmetic) : SourceShaped (.expression (.assign target value))
  | choice {op : BinaryOperator} {left right : Expression} {consequent alternate : List Statement}
      (comparison : op.operatorClass = .relational) (onLeft : left.Bare) (onRight : right.Bare)
      (first : ∀ statement ∈ consequent, SourceShaped statement)
      (second : ∀ statement ∈ alternate, SourceShaped statement) :
      SourceShaped (.ifElse (.binary op left right) consequent alternate)
  | result {argument : Expression} (value : argument.Arithmetic) :
      SourceShaped (.returnValue argument)
  | exportFunction {name : String} {params : List String} {body : List Statement}
      (named : IsName name) (paramNames : ∀ param ∈ params, IsName param)
      (each : ∀ statement ∈ body, SourceShaped statement) :
      SourceShaped (.exportFunction name params body)
  | exportSpecifiers {specifiers : List ExportSpecifier}
      (names : ∀ specifier ∈ specifiers,
        IsName specifier.localName ∧ IsName specifier.exportedName) :
      SourceShaped (.exportSpecifiers specifiers)

/-- A program as scripts have it. -/
def Program.SourceShaped (program : Program) : Prop :=
  ∀ statement ∈ program.body, statement.SourceShaped

/-! ## 2. What is parsed has the shape -/

theorem isName_of_legible {name : String} (h : (Token.identifier name).Legible) : IsName name := by
  obtain ⟨text, lexeme⟩ := h
  generalize eq : Token.identifier name = token at lexeme
  cases lexeme with
  | @identifier c cs start parts free =>
    cases eq
    exact ⟨⟨c, cs, String.toList_ofList, start, parts⟩, free⟩
  | _ => cases eq

/-- All tokens of a scan can be written down: each is a lexeme of the script. -/
theorem legibleRow_of_factorizes {rest text : List Char} {tokens : List Token}
    (h : Factorizes rest text tokens) : LegibleRow tokens := by
  induction h with
  | blanks blank => exact legibleRow_nil
  | lexeme blank lexeme longest more ih => exact legibleRow_cons.mpr ⟨⟨_, lexeme⟩, ih⟩

theorem legibleRow_scan (source : String) : LegibleRow (scan source).tokens := by
  obtain ⟨text, rest, -, factorizes, -⟩ := factorizes_scanFrom 0 source.toList
  exact legibleRow_of_factorizes factorizes

/-- A list with commas can be written down just when its members can. -/
theorem Separated.legibleRow_iff {members : List (List Token)} {words : List Token}
    (h : Separated members words) : LegibleRow words ↔ ∀ member ∈ members, LegibleRow member := by
  induction h with
  | nil => simp
  | last words => simp
  | cons words more ih => simp [ih]

/-- What the shape says of a phrase. -/
def Phrase.SourceShaped : Phrase → Prop
  | .name word => IsName word
  | .primary value | .unary value | .term value | .expression value => value.Arithmetic
  | .statement value => value.SourceShaped
  | .block body => ∀ statement ∈ body, statement.SourceShaped
  | .function declaration => IsName declaration.name ∧
      (∀ param ∈ declaration.params, IsName param) ∧
      ∀ statement ∈ declaration.body, statement.SourceShaped

theorem bare_of_atom {token : Token} {value : Expression} (h : Atom token value)
    (legible : token.Legible) : value.Bare := by
  cases h with
  | name name => exact .var (isName_of_legible legible)
  | number value => exact .number legible

theorem names_of_specifies {specifier : ExportSpecifier} {words : List Token}
    (h : Specifies specifier words) (legible : LegibleRow words) :
    IsName specifier.localName ∧ IsName specifier.exportedName := by
  cases h with
  | plain name =>
    have named := isName_of_legible (legibleRow_cons.mp legible).1
    exact ⟨named, named⟩
  | renamed localName exportedName =>
    simp only [legibleRow_cons, legible_keyword, legibleRow_nil, true_and, and_true] at legible
    exact ⟨isName_of_legible legible.1, isName_of_legible legible.2⟩

theorem mem_arithmetic_iff {op : BinaryOperator} :
    op ∈ [BinaryOperator.add, .subtract, .multiply, .divide] ↔ op.operatorClass ≠ .relational := by
  cases op <;> decide

/-- **A phrase of the grammar has the shape**, if its tokens can be written down. -/
theorem sourceShaped_of_derives {phrase : Phrase} {words : List Token} (h : Derives phrase words) :
    LegibleRow words → phrase.SourceShaped := by
  induction h with
  | identifier name => exact fun legible => isName_of_legible (legibleRow_cons.mp legible).1
  | enclosedName inner ih | enclosed inner ih =>
    intro legible
    exact ih (legibleRow_append.mp (legibleRow_cons.mp legible).2).1
  | number value => exact fun legible => .number (legibleRow_cons.mp legible).1
  | reading inner ih => exact fun legible => .var (ih legible)
  | call named each list ihName ih =>
    intro legible
    simp only [legibleRow_append, legibleRow_cons, list.legibleRow_iff] at legible
    obtain ⟨⟨callee, -, members⟩, -⟩ := legible
    refine .call (ihName callee) fun argument mem => ?_
    obtain ⟨written, listed, rfl⟩ := List.mem_map.mp mem
    exact ih written listed (members _ (List.mem_map_of_mem listed))
  | signed signs inner ih => exact fun legible => .unary (ih (legibleRow_cons.mp legible).2)
  | unsigned inner ih | factor inner ih | summand inner ih => exact ih
  | product onLeft multiplicative onRight ihLeft ihRight =>
    intro legible
    obtain ⟨before, behind⟩ := legibleRow_append.mp legible
    have other := mem_arithmetic_iff.mpr (by rw [multiplicative]; decide)
    exact .binary other (ihLeft before) (ihRight (legibleRow_cons.mp behind).2)
  | sum onLeft additive onRight ihLeft ihRight =>
    intro legible
    obtain ⟨before, behind⟩ := legibleRow_append.mp legible
    have other := mem_arithmetic_iff.mpr (by rw [additive]; decide)
    exact .binary other (ihLeft before) (ihRight (legibleRow_cons.mp behind).2)
  | declaration function ih =>
    intro legible
    obtain ⟨named, params, body⟩ := ih legible
    exact .function named params body
  | uninitialized name =>
    intro legible
    obtain ⟨-, name, -⟩ := by simpa only [legibleRow_cons] using legible
    exact .declaration (isName_of_legible name)
  | initialized init ih =>
    intro legible
    simp only [List.cons_append, legibleRow_cons, legibleRow_append] at legible
    obtain ⟨-, name, -, value, -⟩ := legible
    exact .initialized (isName_of_legible name) (ih value)
  | evaluation inner ih => exact fun legible => .evaluation (ih (legibleRow_append.mp legible).1)
  | assignment named inner ihName ih =>
    intro legible
    simp only [legibleRow_append, legibleRow_cons] at legible
    obtain ⟨⟨target, -, source⟩, -⟩ := legible
    exact .assignment (ihName target) (ih source)
  | choice onLeft relational onRight first second ihFirst ihSecond =>
    intro legible
    simp only [List.cons_append, legibleRow_cons, legibleRow_append] at legible
    obtain ⟨-, -, left, -, right, -, consequent, -, alternate⟩ := legible
    exact .choice relational (bare_of_atom onLeft left) (bare_of_atom onRight right)
      (ihFirst consequent) (ihSecond alternate)
  | result inner ih =>
    intro legible
    exact .result (ih (legibleRow_append.mp (legibleRow_cons.mp legible).2).1)
  | exportFunction function ih =>
    intro legible
    obtain ⟨named, params, body⟩ := ih (legibleRow_cons.mp legible).2
    exact .exportFunction named params body
  | exportList each list =>
    intro legible
    simp only [List.cons_append, legibleRow_cons, legibleRow_append, list.legibleRow_iff] at legible
    obtain ⟨-, -, members, -⟩ := legible
    refine .exportSpecifiers fun specifier mem => ?_
    obtain ⟨written, listed, rfl⟩ := List.mem_map.mp mem
    exact names_of_specifies (each written listed) (members _ (List.mem_map_of_mem listed))
  | block each ih =>
    intro legible statement mem
    obtain ⟨inside, -⟩ := legibleRow_append.mp (legibleRow_cons.mp legible).2
    obtain ⟨written, listed, rfl⟩ := List.mem_map.mp mem
    exact ih written listed (legibleRow_flatten.mp inside _ (List.mem_map_of_mem listed))
  | function list block ih =>
    intro legible
    simp only [List.cons_append, legibleRow_cons, legibleRow_append, list.legibleRow_iff] at legible
    obtain ⟨-, named, -, members, -, body⟩ := legible
    refine ⟨isName_of_legible named, fun param mem => ?_, ih body⟩
    exact isName_of_legible (legibleRow_cons.mp (members _ (List.mem_map_of_mem mem))).1

theorem sourceShaped_of_derivedFrom {program : Program} {tokens : List Token}
    (h : program.DerivedFrom tokens) (legible : LegibleRow tokens) : program.SourceShaped := by
  obtain ⟨each⟩ := h
  intro statement mem
  obtain ⟨written, listed, rfl⟩ := List.mem_map.mp mem
  exact sourceShaped_of_derives (each written listed)
    (legibleRow_flatten.mp legible _ (List.mem_map_of_mem listed))

/-- **What is parsed has the shape of a script**: it is written with the tokens of its script. -/
theorem sourceShaped_of_parse {source : String} {program : Program}
    (h : parse source = .ok program) : program.SourceShaped := by
  have ended := (Automaton.ended_of_parseScan h).1
  have scanned : scan source = ⟨(scan source).tokens, none⟩ := by rw [← ended]
  rw [parse, scanned] at h
  exact sourceShaped_of_derivedFrom (Automaton.derivedFrom_of_parseScan h) (legibleRow_scan source)

/-! ## 3. What has the shape can be written down -/

theorem IsName.isLexeme {name : String} (h : IsName name) :
    IsLexeme name.toList (.identifier name) := by
  obtain ⟨⟨c, cs, parts, start, others⟩, free⟩ := h
  have whole : name = String.ofList (c :: cs) := by rw [← parts, String.ofList_toList]
  subst whole
  rw [String.toList_ofList]
  exact .identifier start others free

theorem IsName.legible {name : String} (h : IsName name) : (Token.identifier name).Legible :=
  ⟨_, h.isLexeme⟩

theorem legible_of_atom {token : Token} {value : Expression} (h : Atom token value)
    (bare : value.Bare) : token.Legible := by
  cases h with
  | name name =>
    cases bare with
    | var named => exact named.legible
  | number value =>
    cases bare with
    | number literal => exact literal

theorem legibleRow_of_specifies {specifier : ExportSpecifier} {words : List Token}
    (h : Specifies specifier words)
    (names : IsName specifier.localName ∧ IsName specifier.exportedName) : LegibleRow words := by
  cases h with
  | plain name => simpa using names.1.legible
  | renamed localName exportedName => simpa using ⟨names.1.legible, names.2.legible⟩

/-- An assignment has no category of expressions. -/
theorem Derives.not_assign {phrase : Phrase} {words : List Token} {target : String}
    {value : Expression} (h : Derives phrase words) :
    phrase.value? ≠ some (.assign target value) := by
  induction h with
  | enclosed inner ih | unsigned inner ih | factor inner ih | summand inner ih => exact ih
  | _ => nofun

/-- **The tokens of a phrase of the shape can be written down.** -/
theorem legibleRow_of_derives {phrase : Phrase} {words : List Token} (h : Derives phrase words) :
    phrase.SourceShaped → LegibleRow words := by
  induction h with
  | identifier name => exact fun named => by simpa using IsName.legible named
  | enclosedName inner ih | enclosed inner ih => exact fun shaped => by simpa using ih shaped
  | number value =>
    intro shaped
    cases shaped with
    | number literal =>
      have legible : (Token.number value).Legible := literal
      simpa using legible
  | reading inner ih =>
    intro shaped
    cases shaped with
    | var named => exact ih named
  | call named each list ihName ih =>
    intro shaped
    cases shaped with
    | call name arguments =>
      have members := list.legibleRow_iff.mpr fun member mem => by
        obtain ⟨argument, listed, rfl⟩ := List.mem_map.mp mem
        exact ih argument listed (arguments _ (List.mem_map_of_mem listed))
      simpa using ⟨ihName name, members⟩
  | signed signs inner ih =>
    intro shaped
    cases shaped with
    | unary operand => simpa using ih operand
  | unsigned inner ih | factor inner ih | summand inner ih => exact ih
  | product onLeft _ onRight ihLeft ihRight | sum onLeft _ onRight ihLeft ihRight =>
    intro shaped
    cases shaped with
    | binary _ left right => simpa using ⟨ihLeft left, ihRight right⟩
  | declaration function ih =>
    intro shaped
    cases shaped with
    | function named params each => exact ih ⟨named, params, each⟩
  | uninitialized name =>
    intro shaped
    cases shaped with
    | declaration named => simpa using named.legible
  | initialized init ih =>
    intro shaped
    cases shaped with
    | initialized named value => simpa using ⟨named.legible, ih value⟩
  | evaluation inner ih =>
    intro shaped
    cases shaped with
    | evaluation arithmetic => simpa using ih arithmetic
    | assignment named arithmetic => exact absurd rfl inner.not_assign
  | assignment named inner ihName ih =>
    intro shaped
    cases shaped with
    | evaluation arithmetic => cases arithmetic
    | assignment name arithmetic => simpa using ⟨ihName name, ih arithmetic⟩
  | choice onLeft relational onRight first second ihFirst ihSecond =>
    intro shaped
    cases shaped with
    | choice comparison left right consequent alternate =>
      simpa using ⟨legible_of_atom onLeft left, legible_of_atom onRight right, ihFirst consequent,
        ihSecond alternate⟩
  | result inner ih =>
    intro shaped
    cases shaped with
    | result value => simpa using ih value
  | exportFunction function ih =>
    intro shaped
    cases shaped with
    | exportFunction named params each => simpa using ih ⟨named, params, each⟩
  | exportList each list =>
    intro shaped
    cases shaped with
    | exportSpecifiers names =>
      have members := list.legibleRow_iff.mpr fun member mem => by
        obtain ⟨specifier, listed, rfl⟩ := List.mem_map.mp mem
        exact legibleRow_of_specifies (each specifier listed) (names _ (List.mem_map_of_mem listed))
      simpa using members
  | block each ih =>
    intro shaped
    have inside := legibleRow_flatten.mpr fun words mem => by
      obtain ⟨statement, listed, rfl⟩ := List.mem_map.mp mem
      exact ih statement listed (shaped _ (List.mem_map_of_mem listed))
    simpa using inside
  | function list block ih =>
    intro shaped
    obtain ⟨named, params, body⟩ := shaped
    have members := list.legibleRow_iff.mpr fun member mem => by
      obtain ⟨param, listed, rfl⟩ := List.mem_map.mp mem
      simpa using (params param listed).legible
    simpa using ⟨named.legible, members, ih body⟩

theorem legibleRow_of_derivedFrom {program : Program} {tokens : List Token}
    (h : program.DerivedFrom tokens) (shaped : program.SourceShaped) : LegibleRow tokens := by
  obtain ⟨each⟩ := h
  refine legibleRow_flatten.mpr fun words mem => ?_
  obtain ⟨statement, listed, rfl⟩ := List.mem_map.mp mem
  exact legibleRow_of_derives (each statement listed) (shaped _ (List.mem_map_of_mem listed))

end NumScript
