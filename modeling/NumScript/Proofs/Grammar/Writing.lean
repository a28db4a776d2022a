import NumScript.Proofs.Grammar.SourceShape

/-!
# Writing a program down

A program of the shape of a script is written down with its tokens (`Program.tokens`), and these with
blanks between them (`Spaced`). An operation is put in parentheses where it would be read in another
way without them: a sum under a sign, a product or on the right of a sum, and a product under a sign
or on the right of a product (`Place.encloses`).

More parentheses and commas are allowed than are needed. A `Style` says how many of them to write at
each place, so that a statement about all styles is one about all ways to write a program. The place
of a part is given by the WAY to it from the root of its tree: the numbers of the branches to take.

The main statement, `parse_of_written`, is that the program can be written down and that, in whatever
style and with whatever literals and blanks, it is read back.
-/

namespace NumScript

/-! ## 1. Parentheses and commas -/

/-- What an expression stands in, as far as its parentheses depend on it. -/
inductive Place where
  /-- In no operation: the value of a statement or an argument. -/
  | alone
  /-- On the left of an operator of this class. -/
  | leftOf (operators : OperatorClass)
  /-- On the right of an operator of this class. -/
  | rightOf (operators : OperatorClass)
  /-- Behind a sign. -/
  | signed

/-- Whether an operation of this class needs parentheses at a place. -/
def Place.encloses : Place → OperatorClass → Bool
  | .leftOf .multiplicative, .additive | .rightOf .multiplicative, .additive
  | .signed, .additive | .rightOf .additive, .additive => true
  | .signed, .multiplicative | .rightOf .multiplicative, .multiplicative => true
  | _, _ => false

/-- What may be written without need, for each part by the way to it. -/
structure Style where
  /-- The pairs of parentheses around a part. -/
  parens : List Nat → Nat
  /-- Whether a comma follows the last member of a list. -/
  comma : List Nat → Bool

namespace Style

/-- Nothing without need. -/
def plain : Style := ⟨fun _ => 0, fun _ => false⟩

/-- The style of the parts behind one branch. -/
def branch (style : Style) (number : Nat) : Style :=
  ⟨fun way => style.parens (number :: way), fun way => style.comma (number :: way)⟩

end Style

/-- So many pairs of parentheses around these tokens. -/
def enclosed : Nat → List Token → List Token
  | 0, words => words
  | count + 1, words => .mark .leftParen :: enclosed count words ++ [.mark .rightParen]

/-- These tokens with the parentheses of the style, and with one pair more if it is needed. -/
def Style.enclose (style : Style) (needed : Bool) (words : List Token) : List Token :=
  enclosed (needed.toNat + style.parens []) words

/-- Members with commas between them, and with one behind the last if the style has it. -/
def Style.separate (style : Style) : List (List Token) → List Token
  | [] => []
  | [words] => words ++ if style.comma [] then [.mark .comma] else []
  | words :: rest => words ++ .mark .comma :: style.separate rest

/-! ## 2. The tokens of a program -/

/-- The operator that a sign is written with. -/
def UnaryOperator.operator : UnaryOperator → BinaryOperator
  | .plus => .add
  | .negate => .subtract

mutual
/-- The tokens of an expression. -/
def Expression.tokens (style : Style) (place : Place) : Expression → List Token
  | .number value => style.enclose false [.number value]
  | .var name => style.enclose false [.identifier name]
  | .binary op left right =>
    style.enclose (place.encloses op.operatorClass)
      (left.tokens (style.branch 0) (.leftOf op.operatorClass) ++
        .operator op :: right.tokens (style.branch 1) (.rightOf op.operatorClass))
  | .unary op operand =>
    style.enclose false (.operator op.operator :: operand.tokens (style.branch 0) .signed)
  | .call callee arguments =>
    style.enclose false ((style.branch 0).enclose false [.identifier callee] ++
      .mark .leftParen :: style.separate (Expression.tokensOf style 1 arguments) ++
        [.mark .rightParen])
  | .assign target value =>
    .identifier target :: .mark .assign :: value.tokens (style.branch 0) .alone

/-- The tokens of expressions that are the branches from this number on. -/
def Expression.tokensOf (style : Style) (number : Nat) : List Expression → List (List Token)
  | [] => []
  | value :: rest =>
    value.tokens (style.branch number) .alone :: Expression.tokensOf style (number + 1) rest
end

/-- The tokens of a side of a comparison, which has no parentheses. -/
def Expression.bareTokens : Expression → List Token
  | .number value => [.number value]
  | .var name => [.identifier name]
  | _ => []

/-- The tokens of the test of a condition. -/
def Expression.testTokens : Expression → List Token
  | .binary op left right => left.bareTokens ++ .operator op :: right.bareTokens
  | _ => []

/-- The tokens of an expression that is a statement. -/
def Expression.effectTokens (style : Style) : Expression → List Token
  | .assign target value =>
    (style.branch 0).enclose false [.identifier target] ++
      .mark .assign :: value.tokens (style.branch 1) .alone
  | value => value.tokens (style.branch 0) .alone

/-- The tokens of a member of an export. -/
def ExportSpecifier.tokens (specifier : ExportSpecifier) : List Token :=
  if specifier.localName = specifier.exportedName then [.identifier specifier.localName]
  else [.identifier specifier.localName, .keyword .asKeyword, .identifier specifier.exportedName]

/-- A block around the tokens of statements. -/
def blockTokens (statements : List (List Token)) : List Token :=
  .mark .leftBrace :: statements.flatten ++ [.mark .rightBrace]

/-- The tokens of a function, whose statements are already tokens. -/
def functionTokens (style : Style) (name : String) (params : List String)
    (statements : List (List Token)) : List Token :=
  .keyword .function :: .identifier name :: .mark .leftParen ::
    style.separate (params.map fun param => [.identifier param]) ++
      .mark .rightParen :: blockTokens statements

mutual
/-- The tokens of a statement. -/
def Statement.tokens (style : Style) : Statement → List Token
  | .function name params body =>
    functionTokens style name params (Statement.tokensOf style 0 body)
  | .variableDeclaration name none =>
    [.keyword .varKeyword, .identifier name, .mark .semicolon]
  | .variableDeclaration name (some init) =>
    .keyword .varKeyword :: .identifier name :: .mark .assign ::
      init.tokens (style.branch 0) .alone ++ [.mark .semicolon]
  | .expression value => value.effectTokens style ++ [.mark .semicolon]
  | .ifElse test consequent alternate =>
    .keyword .ifKeyword :: .mark .leftParen :: test.testTokens ++ .mark .rightParen ::
      blockTokens (Statement.tokensOf (style.branch 0) 0 consequent) ++ .keyword .elseKeyword ::
      blockTokens (Statement.tokensOf (style.branch 1) 0 alternate)
  | .returnValue argument =>
    .keyword .returnKeyword :: argument.tokens (style.branch 0) .alone ++ [.mark .semicolon]
  | .exportFunction name params body =>
    .keyword .exportKeyword ::
      functionTokens style name params (Statement.tokensOf style 0 body)
  | .exportSpecifiers specifiers =>
    .keyword .exportKeyword :: .mark .leftBrace ::
      style.separate (specifiers.map ExportSpecifier.tokens) ++
      [.mark .rightBrace, .mark .semicolon]

/-- The tokens of statements that are the branches from this number on. -/
def Statement.tokensOf (style : Style) (number : Nat) : List Statement → List (List Token)
  | [] => []
  | statement :: rest =>
    statement.tokens (style.branch number) :: Statement.tokensOf style (number + 1) rest
end

/-- The tokens of a program. -/
def Program.tokens (style : Style) (program : Program) : List Token :=
  (Statement.tokensOf style 0 program.body).flatten

/-! ## 3. The tokens derive the program -/

theorem Style.separated (style : Style) : ∀ members : List (List Token),
    Separated members (style.separate members)
  | [] => .nil
  | [words] => by
    rw [Style.separate]
    split
    · exact .cons words .nil
    · rw [List.append_nil]
      exact .last words
  | words :: next :: rest => .cons words (style.separated (next :: rest))

/-- The category of what may stand at a place without parentheses. -/
def Place.phrase : Place → Expression → Phrase
  | .leftOf .multiplicative, value | .rightOf .additive, value => .term value
  | .rightOf .multiplicative, value | .signed, value => .unary value
  | _, value => .expression value

section Places

variable {value : Expression} {words : List Token}

theorem Place.derives_of_unary (place : Place) (h : Derives (.unary value) words) :
    Derives (place.phrase value) words := by
  unfold Place.phrase
  split
  · exact .factor h
  · exact .factor h
  · exact h
  · exact h
  · exact .summand (.factor h)

/-- A product stands without parentheses where they are not needed. -/
theorem Place.derives_of_term {place : Place} (free : place.encloses .multiplicative = false)
    (h : Derives (.term value) words) : Derives (place.phrase value) words := by
  unfold Place.phrase
  split
  · exact h
  · exact h
  · cases free
  · cases free
  · exact .summand h

/-- A sum stands without parentheses where they are not needed. -/
theorem Place.derives_of_expression {place : Place} (free : place.encloses .additive = false)
    (h : Derives (.expression value) words) : Derives (place.phrase value) words := by
  unfold Place.phrase
  split
  · cases free
  · cases free
  · cases free
  · cases free
  · exact h

/-- In parentheses an expression can stand anywhere; without them, only where it is allowed. -/
theorem Place.derives_enclosed (place : Place) (inner : Derives (.expression value) words) :
    ∀ count : Nat, (count = 0 → Derives (place.phrase value) words) →
      Derives (place.phrase value) (enclosed count words)
  | 0, allowed => allowed rfl
  | count + 1, _ => by
    have less : Derives (.expression value) (enclosed count words) :=
      Place.derives_enclosed .alone inner count fun _ => inner
    exact place.derives_of_unary (.unsigned (.enclosed less))

/-- What binds tightly needs no parentheses. -/
theorem Place.derives_enclose (place : Place) (style : Style) (h : Derives (.unary value) words) :
    Derives (place.phrase value) (style.enclose false words) :=
  place.derives_enclosed (.summand (.factor h)) _ fun _ => place.derives_of_unary h

theorem derives_enclosedName {name : String} : ∀ count : Nat,
    Derives (.name name) (enclosed count [.identifier name])
  | 0 => .identifier name
  | count + 1 => .enclosedName (derives_enclosedName count)

theorem Style.derives_name (style : Style) (name : String) :
    Derives (.name name) (style.enclose false [.identifier name]) := derives_enclosedName _

theorem eq_false_of_toNat_add {needed : Bool} {count : Nat} (h : needed.toNat + count = 0) :
    needed = false := by
  cases needed with
  | false => rfl
  | true =>
    rw [Bool.toNat_true] at h
    omega

end Places

/-- An operation with its two sides at their places, and the parentheses that its own place needs. -/
theorem Place.derives_binary (place : Place) (style : Style) {op : BinaryOperator}
    {left right : Expression} {leftWords rightWords : List Token}
    (arithmetic : op ∈ [BinaryOperator.add, .subtract, .multiply, .divide])
    (onLeft : Derives ((Place.leftOf op.operatorClass).phrase left) leftWords)
    (onRight : Derives ((Place.rightOf op.operatorClass).phrase right) rightWords) :
    Derives (place.phrase (.binary op left right))
      (style.enclose (place.encloses op.operatorClass) (leftWords ++ .operator op :: rightWords)) := by
  cases binds : op.operatorClass with
  | additive =>
    rw [binds] at onLeft onRight
    have sum := Derives.sum onLeft binds onRight
    exact place.derives_enclosed sum _ fun none =>
      Place.derives_of_expression (eq_false_of_toNat_add none) sum
  | multiplicative =>
    rw [binds] at onLeft onRight
    have product := Derives.product onLeft binds onRight
    exact place.derives_enclosed (.summand product) _ fun none =>
      Place.derives_of_term (eq_false_of_toNat_add none) product
  | relational =>
    exact absurd binds (mem_arithmetic_iff.mp arithmetic)

theorem signs_operator (sign : UnaryOperator) : Signs sign.operator sign := by
  cases sign with
  | plus => exact .plus
  | negate => exact .minus

/-- Two lists that are related member by member, as a list of pairs. -/
theorem exists_pairs {α β : Type} {R : α → β → Prop} {first : List α} {second : List β}
    (h : List.Forall₂ R first second) :
    ∃ pairs : List (α × β), pairs.map Prod.fst = first ∧ pairs.map Prod.snd = second ∧
      ∀ pair ∈ pairs, R pair.1 pair.2 := by
  induction h with
  | nil => exact ⟨[], rfl, rfl, nofun⟩
  | @cons a b _ _ related _ ih =>
    obtain ⟨pairs, rfl, rfl, each⟩ := ih
    exact ⟨(a, b) :: pairs, rfl, rfl, List.forall_mem_cons.mpr ⟨related, each⟩⟩

mutual
/-- **The tokens of an expression derive it**, at every place and in every style. -/
theorem derives_tokens : ∀ {value : Expression}, value.Arithmetic →
    ∀ (style : Style) (place : Place), Derives (place.phrase value) (value.tokens style place)
  | .number value, _, style, place => by
    rw [Expression.tokens]
    exact place.derives_enclose style (.unsigned (.number value))
  | .var name, _, style, place => by
    rw [Expression.tokens]
    exact place.derives_enclose style (.unsigned (.reading (.identifier name)))
  | .binary op left right, .binary arithmetic onLeft onRight, style, place => by
    rw [Expression.tokens]
    exact place.derives_binary style arithmetic (derives_tokens onLeft _ _)
      (derives_tokens onRight _ _)
  | .unary sign operand, .unary inner, style, place => by
    rw [Expression.tokens]
    have operand := derives_tokens inner (style.branch 0) .signed
    exact place.derives_enclose style (.signed (signs_operator sign) operand)
  | .call callee arguments, .call named each, style, place => by
    rw [Expression.tokens]
    have named := (style.branch 0).derives_name callee
    obtain ⟨pairs, values, words, derived⟩ := exists_pairs (derives_tokensOf each style 1)
    have call := Derives.call named derived (style.separated _)
    rw [values, words] at call
    exact place.derives_enclose style (.unsigned call)

theorem derives_tokensOf : ∀ {arguments : List Expression},
    (∀ argument ∈ arguments, argument.Arithmetic) → ∀ (style : Style) (number : Nat),
    List.Forall₂ (fun value words => Derives (.expression value) words) arguments
      (Expression.tokensOf style number arguments)
  | [], _, style, number => .nil
  | argument :: rest, each, style, number => by
    obtain ⟨first, others⟩ := List.forall_mem_cons.mp each
    rw [Expression.tokensOf]
    exact .cons (derives_tokens first _ .alone) (derives_tokensOf others style _)
end

theorem exists_atom {value : Expression} (h : value.Bare) :
    ∃ token, value.bareTokens = [token] ∧ Atom token value := by
  cases h with
  | @number value literal => exact ⟨.number value, rfl, .number value⟩
  | @var name named => exact ⟨.identifier name, rfl, .name name⟩

theorem specifies_tokens (specifier : ExportSpecifier) : Specifies specifier specifier.tokens := by
  obtain ⟨localName, exportedName⟩ := specifier
  by_cases same : localName = exportedName
  · subst same
    rw [ExportSpecifier.tokens, if_pos rfl]
    exact .plain localName
  · rw [ExportSpecifier.tokens, if_neg same]
    exact .renamed localName exportedName

/-- The tokens of a block derive it, if those of its statements do. -/
theorem derives_blockTokens {body : List Statement} {words : List (List Token)}
    (h : List.Forall₂ (fun statement words => Derives (.statement statement) words) body words) :
    Derives (.block body) (blockTokens words) := by
  obtain ⟨pairs, rfl, rfl, derived⟩ := exists_pairs h
  exact .block derived

theorem derives_functionTokens (style : Style) (name : String) (params : List String)
    {body : List Statement} {words : List (List Token)}
    (h : List.Forall₂ (fun statement words => Derives (.statement statement) words) body words) :
    Derives (.function ⟨name, params, body⟩) (functionTokens style name params words) :=
  .function (style.separated _) (derives_blockTokens h)

/-- The tokens of an expression that is no assignment. -/
theorem effectTokens_of_arithmetic {value : Expression} (h : value.Arithmetic) (style : Style) :
    value.effectTokens style = value.tokens (style.branch 0) .alone := by
  cases h <;> rfl

mutual
/-- **The tokens of a statement derive it**, in every style. -/
theorem derives_statementTokens : ∀ {statement : Statement}, statement.SourceShaped →
    ∀ style : Style, Derives (.statement statement) (statement.tokens style)
  | .function name params body, .function named paramNames each, style => by
    rw [Statement.tokens]
    exact .declaration (derives_functionTokens style name params (derives_bodyTokens each style 0))
  | .variableDeclaration name none, _, style => .uninitialized name
  | .variableDeclaration name (some init), .initialized named value, style => by
    rw [Statement.tokens]
    exact .initialized (derives_tokens value _ .alone)
  | .expression value, .evaluation arithmetic, style => by
    rw [Statement.tokens, effectTokens_of_arithmetic arithmetic]
    exact .evaluation (derives_tokens arithmetic _ .alone)
  | .expression (.assign target value), .assignment named arithmetic, style => by
    rw [Statement.tokens]
    exact .assignment ((style.branch 0).derives_name target) (derives_tokens arithmetic _ .alone)
  | .ifElse (.binary op left right) consequent alternate,
      .choice comparison onLeft onRight first second, style => by
    obtain ⟨leftToken, leftWords, leftAtom⟩ := exists_atom onLeft
    obtain ⟨rightToken, rightWords, rightAtom⟩ := exists_atom onRight
    rw [Statement.tokens, Expression.testTokens, leftWords, rightWords]
    exact .choice leftAtom comparison rightAtom
      (derives_blockTokens (derives_bodyTokens first (style.branch 0) 0))
      (derives_blockTokens (derives_bodyTokens second (style.branch 1) 0))
  | .returnValue argument, .result value, style => by
    rw [Statement.tokens]
    exact .result (derives_tokens value _ .alone)
  | .exportFunction name params body, .exportFunction named paramNames each, style => by
    rw [Statement.tokens]
    exact .exportFunction
      (derives_functionTokens style name params (derives_bodyTokens each style 0))
  | .exportSpecifiers specifiers, _, style => by
    have each : ∀ written ∈ specifiers.map (fun specifier => (specifier, specifier.tokens)),
        Specifies written.1 written.2 := by
      intro written mem
      obtain ⟨specifier, -, rfl⟩ := List.mem_map.mp mem
      exact specifies_tokens specifier
    have list := Derives.exportList each (style.separated _)
    rw [List.map_map, List.map_map] at list
    rw [Statement.tokens]
    simpa [Function.comp_def] using list

theorem derives_bodyTokens : ∀ {body : List Statement},
    (∀ statement ∈ body, statement.SourceShaped) → ∀ (style : Style) (number : Nat),
    List.Forall₂ (fun statement words => Derives (.statement statement) words) body
      (Statement.tokensOf style number body)
  | [], _, style, number => .nil
  | statement :: rest, each, style, number => by
    obtain ⟨first, others⟩ := List.forall_mem_cons.mp each
    rw [Statement.tokensOf]
    exact .cons (derives_statementTokens first _) (derives_bodyTokens others style _)
end

theorem derivedFrom_tokens {program : Program} (h : program.SourceShaped) (style : Style) :
    program.DerivedFrom (program.tokens style) := by
  obtain ⟨body⟩ := program
  obtain ⟨pairs, statements, words, derived⟩ := exists_pairs (derives_bodyTokens h style 0)
  have written := Program.DerivedFrom.statements derived
  rw [statements, words] at written
  exact written

/-! ## 4. Reading back -/

theorem parse_of_spaced {program : Program} {tokens : List Token} {source : String}
    (h : program.DerivedFrom tokens) (spaced : Spaced tokens source.toList) :
    parse source = .ok program := by
  rw [parse, scan_of_spaced spaced]
  exact Automaton.parseScan_of_derivedFrom h

theorem exists_written {program : Program} (h : program.SourceShaped) (style : Style) :
    ∃ source : String, Spaced (program.tokens style) source.toList := by
  have derived := derivedFrom_tokens h style
  obtain ⟨text, spaced⟩ := exists_spaced (legibleRow_of_derivedFrom derived h)
  refine ⟨String.ofList text, ?_⟩
  rw [String.toList_ofList]
  exact spaced

/-- The trees that come from scripts are those of the shape, no fewer. -/
theorem exists_parse_iff_sourceShaped (program : Program) :
    (∃ source, parse source = .ok program) ↔ program.SourceShaped := by
  constructor
  · intro h
    obtain ⟨source, parsed⟩ := h
    exact sourceShaped_of_parse parsed
  · intro shaped
    obtain ⟨source, spaced⟩ := exists_written shaped .plain
    exact ⟨source, parse_of_spaced (derivedFrom_tokens shaped .plain) spaced⟩

/-- **What has the shape of a script can be written down and is read back.** In every style there is a
    text of the program, and every text of it, with whatever literals for its numbers and whatever
    blanks between its lexemes, is parsed as this program. In the plain style there are no parentheses
    but those that are needed. -/
theorem parse_of_written (program : Program) (shaped : program.SourceShaped) (style : Style) :
    (∃ source : String, Spaced (program.tokens style) source.toList) ∧
    ∀ source : String, Spaced (program.tokens style) source.toList →
      parse source = .ok program :=
  ⟨exists_written shaped style,
    fun _ spaced => parse_of_spaced (derivedFrom_tokens shaped style) spaced⟩

/-- The product of a sum and the negative of a quotient. -/
def nestedOperations : Program where
  body := [.expression (.binary .multiply
    (.binary .add (.var "a") (.number (.ofDecimal ['2'] ['5'])))
    (.unary .negate (.binary .divide (.var "b") (.call "f" [.var "a"]))))]

/-- Two pairs of parentheses around the name of the function that is called, and a comma behind its
    argument. -/
def calleeStyle : Style where
  parens way := if way = [0, 0, 1, 0, 1, 0] then 2 else 0
  comma way := way = [0, 0, 1, 0, 1]

theorem parse_nestedOperations :
    nestedOperations.SourceShaped ∧
    parse " ( a + 2.50 ) * - ( b / ( ( f ) ) ( a , ) ) ;" = .ok nestedOperations := by
  have same : Binary64.ofDecimal ['2'] ['5', '0'] = Binary64.ofDecimal ['2'] ['5'] := by
    decide +kernel
  have literal : IsLexeme ['2', '.', '5', '0'] (.number (.ofDecimal ['2'] ['5'])) := by
    rw [← same]
    exact @IsLexeme.fraction ['2'] ['5', '0'] (by simp) (by simp [← isDigit_iff]) (by simp)
      (by simp [← isDigit_iff])
  have name (name : String) (h : IsName name) : IsLexeme name.toList (.identifier name) := h.isLexeme
  have shaped : nestedOperations.SourceShaped := by
    refine List.forall_mem_singleton.mpr (.evaluation (.binary (by decide) (.binary (by decide)
      (.var (by decide)) (.number ⟨_, literal⟩)) (.unary (.binary (by decide) (.var (by decide))
      (.call (by decide) (List.forall_mem_singleton.mpr (.var (by decide))))))))
  have lexemes : List.Forall₂ (fun token text => IsLexeme text token)
      (nestedOperations.tokens calleeStyle)
      ["(".toList, "a".toList, "+".toList, ['2', '.', '5', '0'], ")".toList, "*".toList,
        "-".toList, "(".toList, "b".toList, "/".toList, "(".toList, "(".toList, "f".toList,
        ")".toList, ")".toList, "(".toList, "a".toList, ",".toList, ")".toList, ")".toList,
        ";".toList] :=
    .cons (.mark .leftParen) <| .cons (name "a" (by decide)) <| .cons (.operator .add) <|
    .cons literal <| .cons (.mark .rightParen) <| .cons (.operator .multiply) <|
    .cons (.operator .subtract) <| .cons (.mark .leftParen) <| .cons (name "b" (by decide)) <|
    .cons (.operator .divide) <| .cons (.mark .leftParen) <| .cons (.mark .leftParen) <|
    .cons (name "f" (by decide)) <| .cons (.mark .rightParen) <| .cons (.mark .rightParen) <|
    .cons (.mark .leftParen) <| .cons (name "a" (by decide)) <| .cons (.mark .comma) <|
    .cons (.mark .rightParen) <| .cons (.mark .rightParen) <| .cons (.mark .semicolon) .nil
  exact ⟨shaped, (parse_of_written nestedOperations shaped calleeStyle).2 _
    (spaced_of_lexemes lexemes).2⟩

end NumScript
