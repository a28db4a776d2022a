import NumScript.Proofs.Automaton.Handle

/-!
# A linked stack has the shape that a reduction asks for

The shape is found from the top down: the state of an entry says which states can lie under it. So a
handle of fixed length is read off the table, and the lists, sums and blocks, which have any length,
by induction on the stack. The main statements are `exists_handle`, that the handle is there, and
`Handle.placeable`, that the table has an entry for the node that is built.
-/

namespace NumScript.Automaton

/-! ## 1. Rows of entries on a linked stack -/

namespace Linked

variable {stack : List Entry}

/-- Above the bracket of a list lie its members and commas. -/
theorem exists_listed {α : Type} (shape : ListShape α) {opening : Mark} {callers : List State}
    {itemKind : Kind} (linked : Linked stack)
    (before : arrivals shape.before =
      [(callers, [.mark opening]), ([shape.after], [.mark .comma])])
    (after : arrivals shape.after = [([shape.before], [itemKind])])
    (later : shape.before ≠ .beforeStatement ∧ shape.after ≠ .beforeStatement)
    (item : ∀ symbol, symbol.kind = itemKind → Fits shape.before symbol →
      ∃ value, symbol = shape.item value) :
    ∀ more, stateOf stack = (if more then shape.before else shape.after) →
      ∃ above values rest, Listed shape more above values ∧
        stack = above ++ ⟨shape.before, .token (.mark opening)⟩ :: rest ∧
        stateOf rest ∈ callers ∧ Linked rest := by
  induction linked with
  | nil =>
    intro more eq
    cases more with
    | true => exact absurd eq.symm later.1
    | false => exact absurd eq.symm later.2
  | @cons entry rest shift fits linked ih =>
    obtain ⟨state, symbol⟩ := entry
    intro more eq
    have arrived := action?_eq_some_iff.1 shift
    cases more with
    | true =>
      obtain rfl : state = shape.before := eq
      obtain ⟨point, mem, memState, memKind⟩ : Among (arrivals shape.before) _ _ := arrived
      simp only [before, List.mem_cons, List.not_mem_nil, or_false] at mem
      rcases mem with rfl | rfl
      · obtain rfl : symbol = .token (.mark opening) :=
          Symbol.shaped_of (List.mem_singleton.1 memKind)
        exact ⟨[], [], rest, .nil, rfl, memState, linked⟩
      · obtain rfl : symbol = .token (.mark .comma) :=
          Symbol.shaped_of (List.mem_singleton.1 memKind)
        obtain ⟨above, values, below, list, rfl, called, linked⟩ :=
          ih false (List.mem_singleton.1 memState)
        exact ⟨_, values, below, .comma list, rfl, called, linked⟩
    | false =>
      obtain rfl : state = shape.after := eq
      obtain ⟨point, mem, memState, memKind⟩ : Among (arrivals shape.after) _ _ := arrived
      rw [after, List.mem_singleton] at mem
      subst mem
      have under := List.mem_singleton.1 memState
      obtain ⟨value, rfl⟩ := item symbol (List.mem_singleton.1 memKind) (under ▸ fits)
      obtain ⟨above, values, below, list, rfl, called, linked⟩ := ih true under
      exact ⟨_, _, below, .item value list, rfl, called, linked⟩

/-- The list on the top of a stack in one of its two states. -/
theorem exists_list {α : Type} (shape : ListShape α) {opening : Mark} {callers : List State}
    {itemKind : Kind} (linked : Linked stack) (eq : stateOf stack ∈ [shape.before, shape.after])
    (before : arrivals shape.before =
      [(callers, [.mark opening]), ([shape.after], [.mark .comma])])
    (after : arrivals shape.after = [([shape.before], [itemKind])])
    (later : shape.before ≠ .beforeStatement ∧ shape.after ≠ .beforeStatement)
    (item : ∀ symbol, symbol.kind = itemKind → Fits shape.before symbol →
      ∃ value, symbol = shape.item value) :
    ∃ more above values rest, Listed shape more above values ∧
      stack = above ++ ⟨shape.before, .token (.mark opening)⟩ :: rest ∧
      stateOf rest ∈ callers ∧ Linked rest := by
  rcases List.mem_cons.1 eq with eq | eq
  · exact ⟨true, linked.exists_listed shape before after later item true eq⟩
  · exact ⟨false, linked.exists_listed shape before after later item false
      (List.mem_singleton.1 eq)⟩

/-- A sum goes down to the state in which an expression was to come. -/
theorem exists_chain (linked : Linked stack) :
    (stateOf stack ∈ summandStates → ∃ chain value rest, Chain chain value ∧
      stack = chain ++ rest ∧ stateOf rest ∈ expressionStates ∧ Linked rest) ∧
    (stateOf stack = .afterAdditiveOperator → ∃ op chain value rest,
      op.operatorClass = .additive ∧ Chain chain value ∧
      stack = ⟨.afterAdditiveOperator, .token (.operator op)⟩ :: (chain ++ rest) ∧
      stateOf rest ∈ expressionStates ∧ Linked rest) := by
  induction linked with
  | nil => exact ⟨fun h => absurd h (by decide), fun h => nomatch h⟩
  | @cons entry rest shift fits linked ih =>
    obtain ⟨state, symbol⟩ := entry
    have arrived := action?_eq_some_iff.1 shift
    constructor
    · intro after
      have arrived : Among (arrivals state) (stateOf rest) symbol.kind := arrived
      have summands : ∀ state ∈ summandStates, ∀ point ∈ arrivals state, ∀ below ∈ point.1,
          ∀ kind ∈ point.2, below ∈ additiveStates ∧ kind ∈ operandKinds ∧
            (below = .afterAdditiveOperator → state = .afterAdditiveOperand) := by decide
      obtain ⟨under, kind, again⟩ := arrived.imp _ (summands state after)
      obtain ⟨value, operand⟩ := Symbol.exists_operand kind
      rcases List.mem_cons.1 under with operator | expression
      · -- an operator lies under the operand, so the sum goes on below it
        obtain rfl := again operator
        obtain ⟨op, chain, left, below, additive, sum, rfl, bottom⟩ := ih.2 operator
        exact ⟨_, _, below, .next sum additive operand, rfl, bottom⟩
      · exact ⟨[⟨state, symbol⟩], value, rest, .first after operand, rfl, expression, linked⟩
    · intro eq
      obtain rfl : state = .afterAdditiveOperator := eq
      have arrived : Among (arrivals .afterAdditiveOperator) (stateOf rest) symbol.kind := arrived
      obtain ⟨under, kind⟩ := arrived.imp
        (fun below kind => below ∈ summandStates ∧ kind = .operator .additive) (by decide)
      obtain ⟨op, rfl, additive⟩ := Symbol.shaped_of kind
      obtain ⟨chain, value, below, sum, rfl, bottom⟩ := ih.1 under
      exact ⟨op, chain, value, below, additive, sum, rfl, bottom⟩

/-- Before a statement lie the statements of the same block, and under them its brace or nothing. -/
theorem exists_statementEntries (linked : Linked stack) (eq : stateOf stack = .beforeStatement) :
    (∃ body, stack = statementEntries body) ∨
    ∃ body rest, stack =
        statementEntries body ++ ⟨.beforeStatement, .token (.mark .leftBrace)⟩ :: rest ∧
      stateOf rest ∈ [.beforeBody, .beforeConsequent, .beforeAlternate] ∧ Linked rest := by
  induction linked with
  | nil => exact .inl ⟨[], rfl⟩
  | @cons entry rest shift fits linked ih =>
    obtain ⟨state, symbol⟩ := entry
    obtain rfl : state = .beforeStatement := eq
    have arrived : Among (arrivals .beforeStatement) (stateOf rest) symbol.kind :=
      action?_eq_some_iff.1 shift
    have ways := arrived.imp (fun below kind =>
      (below = .beforeStatement ∧ kind ∈ statementKinds) ∨
        (below ∈ [.beforeBody, .beforeConsequent, .beforeAlternate] ∧ kind = .mark .leftBrace))
      (by decide)
    rcases ways with ⟨under, kind⟩ | ⟨under, kind⟩
    · obtain ⟨statement, rfl⟩ := Symbol.exists_statement kind
      rcases ih under with ⟨body, rfl⟩ | ⟨body, below, rfl, opened⟩
      · exact .inl ⟨body ++ [statement], (statementEntries_concat body statement).symm⟩
      · refine .inr ⟨body ++ [statement], below, ?_, opened⟩
        rw [statementEntries_concat, List.cons_append]
    · obtain rfl : symbol = .token (.mark .leftBrace) := Symbol.shaped_of kind
      exact .inr ⟨[], rest, rfl, under, linked⟩

end Linked

/-! ## 2. Handles on a linked stack -/

namespace Linked

variable {stack : List Entry}

theorem handle_term (linked : Linked stack) (eq : stateOf stack = .afterMultiplicativeOperand) :
    ∃ node rest, Handle .term none stack node rest := by
  obtain ⟨rightSymbol, fromOperator, rfl, ⟨operatorState, rightKind⟩, -, linked₁⟩ := linked.top eq
    (fun below kind => below = .afterMultiplicativeOperator ∧ kind ∈ operandKinds) (by decide)
  obtain ⟨operator, fromLeft, rfl, ⟨leftState, operatorKind⟩, -, linked₂⟩ := linked₁.top operatorState
    (fun below kind => below ∈ summandStates ∧ kind = .operator .multiplicative) (by decide)
  obtain ⟨state, leftSymbol, rest, after, rfl, ⟨under, leftKind⟩, -, -⟩ := linked₂.top_of_mem
    leftState (fun below kind => below ∈ additiveStates ∧ kind ∈ operandKinds) (by decide)
  obtain ⟨right, onRight⟩ := Symbol.exists_operand rightKind
  obtain ⟨op, rfl, multiplicative⟩ := Symbol.shaped_of operatorKind
  obtain ⟨left, onLeft⟩ := Symbol.exists_operand leftKind
  exact ⟨_, rest, .term onLeft multiplicative onRight after under⟩

theorem handle_fullExpression (linked : Linked stack) (after : stateOf stack ∈ summandStates) :
    ∃ node rest, Handle .fullExpression none stack node rest := by
  obtain ⟨chain, value, rest, sum, rfl, under, -⟩ := linked.exists_chain.1 after
  exact ⟨_, rest, .fullExpression sum under⟩

theorem handle_parenthesized (linked : Linked stack) (eq : stateOf stack = .beforeOperand)
    {value : Expression} (operand : expressionKind value ∈ operandKinds) :
    ∃ node rest, Handle .parenthesized (some (.expression value true)) stack node rest := by
  obtain ⟨symbol, rest, rfl, ⟨under, kind⟩, -, -⟩ := linked.top eq
    (fun below kind => below ∈ operandStates ∧ kind = .mark .leftParen) (by decide)
  obtain rfl : symbol = _ := Symbol.shaped_of kind
  exact ⟨_, rest, .parenthesized operand under⟩

theorem handle_unaryExpression (linked : Linked stack) (eq : stateOf stack = .afterUnaryOperand) :
    ∃ node rest, Handle .unaryExpression none stack node rest := by
  obtain ⟨symbol, fromOperator, rfl, ⟨operatorState, operandKind⟩, -, linked₁⟩ := linked.top eq
    (fun below kind => below = .afterUnaryOperator ∧ kind ∈ operandKinds) (by decide)
  obtain ⟨operator, rest, rfl, ⟨under, operatorKind⟩, -, -⟩ := linked₁.top operatorState
    (fun below kind => below ∈ operandStates ∧ kind = .operator .additive) (by decide)
  obtain ⟨operand, on⟩ := Symbol.exists_operand operandKind
  obtain ⟨op, rfl, additive⟩ := Symbol.shaped_of operatorKind
  exact ⟨_, rest, .unaryExpression on additive under⟩

/-- A call finds its arguments and its bracket; only what is called may be no name. -/
theorem handle_callExpression (linked : Linked stack)
    (eq : stateOf stack ∈ [.beforeArgument, .afterArgument]) :
    (∃ node rest, Handle .callExpression none stack node rest) ∨
      ∃ error, Misfit .callExpression stack error := by
  obtain ⟨more, above, arguments, fromCallee, list, rfl, after, linked₁⟩ :=
    linked.exists_list argumentList eq rfl rfl (by decide) fun _ kind _ => Symbol.shaped_of kind
  obtain ⟨state, symbol, rest, after, rfl, ⟨under, kind⟩, -, -⟩ := linked₁.top_of_mem after
    (fun below kind => below ∈ operandStates ∧ kind ∈ operandKinds) (by decide)
  obtain ⟨value, operand⟩ := Symbol.exists_operand kind
  by_cases named : ∃ name, value = .var name
  · obtain ⟨name, rfl⟩ := named
    exact .inl ⟨_, rest, .callExpression list operand after under⟩
  · exact .inr ⟨_, .uncallable list operand (not_exists.1 named)⟩

theorem handle_assignmentExpression (linked : Linked stack)
    (eq : stateOf stack = .beforeAssignmentRight) (value : Expression) :
    ∃ node rest, Handle .assignmentExpression (some (.expression value true)) stack node rest := by
  obtain ⟨mark, fromTarget, rfl, targetState, rfl, -, linked₁⟩ :=
    linked.top_of_single eq rfl (by decide)
  obtain ⟨symbol, rest, rfl, under, ⟨target, named⟩, -, -⟩ :=
    linked₁.top_of_single targetState rfl (by decide)
  exact ⟨_, rest, .assignmentExpression named under⟩

theorem handle_expressionStatement (linked : Linked stack)
    (eq : stateOf stack = .afterExpression) :
    ∃ node rest, Handle .expressionStatement none stack node rest := by
  obtain ⟨symbol, rest, rfl, ⟨under, kind⟩, -, -⟩ := linked.top eq
    (fun below kind => below = .beforeStatement ∧
      (kind = .assignmentExpression ∨ kind = .fullExpression)) (by decide)
  rcases kind with kind | kind
  · obtain ⟨target, value, rfl⟩ := Symbol.shaped_of kind
    exact ⟨_, rest, .expressionStatement under⟩
  · obtain ⟨value, rfl⟩ := Symbol.shaped_of kind
    exact ⟨_, rest, .expressionStatement under⟩

/-- The name of a variable lies on its keyword. -/
theorem exists_variable (linked : Linked stack) (eq : stateOf stack = .afterVariableName) :
    ∃ name rest, stateOf rest = .beforeStatement ∧ stack =
      ⟨.afterVariableName, .token (.identifier name)⟩ ::
        ⟨.afterVariableKeyword, .token (.keyword .varKeyword)⟩ :: rest := by
  obtain ⟨symbol, fromKeyword, rfl, keywordState, shape, fits, linked₁⟩ :=
    linked.top_of_single eq rfl (by decide)
  obtain ⟨name, rfl⟩ := exists_identifier shape fits (by decide)
  obtain ⟨keyword, rest, rfl, under, rfl, -, -⟩ :=
    linked₁.top_of_single keywordState rfl (by decide)
  exact ⟨name, rest, under, rfl⟩

theorem handle_variableDeclaration (linked : Linked stack)
    (eq : stateOf stack = .afterVariableName) :
    ∃ node rest, Handle .variableDeclaration none stack node rest := by
  obtain ⟨name, rest, under, rfl⟩ := linked.exists_variable eq
  exact ⟨_, rest, .variableDeclaration under⟩

theorem handle_initialized (linked : Linked stack) (eq : stateOf stack = .beforeInit)
    (value : Expression) :
    ∃ node rest, Handle .variableDeclaration (some (.expression value true)) stack node rest := by
  obtain ⟨mark, fromName, rfl, nameState, rfl, -, linked₁⟩ :=
    linked.top_of_single eq rfl (by decide)
  obtain ⟨name, rest, under, rfl⟩ := linked₁.exists_variable nameState
  exact ⟨_, rest, .initialized under⟩

theorem handle_params (linked : Linked stack) (eq : stateOf stack ∈ [.beforeParam, .afterParam]) :
    ∃ node rest, Handle .params none stack node rest := by
  obtain ⟨more, above, names, rest, list, rfl, under, -⟩ :=
    linked.exists_list paramList eq rfl rfl (by decide) fun _ kind fits =>
      exists_identifier (Symbol.shaped_of kind) fits (by decide)
  exact ⟨_, rest, .params list (List.mem_singleton.1 under)⟩

theorem handle_functionDeclaration (linked : Linked stack) (eq : stateOf stack = .beforeBody)
    (body : List Statement) :
    ∃ node rest, Handle .functionDeclaration (some (.block body)) stack node rest := by
  obtain ⟨symbol, fromName, rfl, nameState, ⟨params, rfl⟩, -, linked₁⟩ :=
    linked.top_of_single eq rfl (by decide)
  obtain ⟨symbol, fromKeyword, rfl, keywordState, shape, fits, linked₂⟩ :=
    linked₁.top_of_single nameState rfl (by decide)
  obtain ⟨name, rfl⟩ := exists_identifier shape fits (by decide)
  obtain ⟨keyword, rest, rfl, ⟨under, kind⟩, -, -⟩ := linked₂.top keywordState
    (fun below kind => below ∈ [.beforeStatement, .afterExportKeyword] ∧
      kind = .keyword .function) (by decide)
  obtain rfl : keyword = _ := Symbol.shaped_of kind
  exact ⟨_, rest, .functionDeclaration under⟩

/-- A side of a comparison is a token. -/
theorem exists_testOperand {below : State} {symbol : Symbol}
    (kind : symbol.kind ∈ [.numericLiteral, .identifier]) (fits : Fits below symbol)
    (outside : below ∉ .afterIfKeyword :: operandStates) :
    ∃ token value, symbol = .token token ∧ Operand (.token token) value := by
  obtain ⟨value, operand⟩ : ∃ value, Operand symbol value := by
    have operands : ∀ kind ∈ [.numericLiteral, .identifier], kind ∈ operandKinds := by decide
    exact Symbol.exists_operand (operands _ kind)
  cases operand with
  | name name => exact ⟨_, _, rfl, .name name⟩
  | number value => exact ⟨_, _, rfl, .number value⟩
  | node => exact absurd (fits.incomplete _ rfl) outside

theorem handle_test (linked : Linked stack) (eq : stateOf stack = .afterComparison) :
    ∃ node rest, Handle .test none stack node rest := by
  obtain ⟨rightSymbol, fromOperator, rfl, ⟨operatorState, rightKind⟩, fitsRight, linked₁⟩ :=
    linked.top eq (fun below kind => below = .afterRelationalOperator ∧
      kind ∈ [.numericLiteral, .identifier]) (by decide)
  obtain ⟨operator, fromLeft, rfl, leftState, ⟨op, rfl, relational⟩, -, linked₂⟩ :=
    linked₁.top_of_single operatorState rfl (by decide)
  obtain ⟨leftSymbol, fromParen, rfl, ⟨parenState, leftKind⟩, fitsLeft, linked₃⟩ :=
    linked₂.top leftState (fun below kind => below = .beforeTestOperand ∧
      kind ∈ [.numericLiteral, .identifier]) (by decide)
  obtain ⟨paren, rest, rfl, under, rfl, -, -⟩ := linked₃.top_of_single parenState rfl (by decide)
  obtain ⟨rightToken, right, rfl, onRight⟩ :=
    exists_testOperand rightKind (operatorState ▸ fitsRight) (by decide)
  obtain ⟨leftToken, left, rfl, onLeft⟩ :=
    exists_testOperand leftKind (parenState ▸ fitsLeft) (by decide)
  exact ⟨_, rest, .test onLeft relational onRight under⟩

theorem handle_ifStatement (linked : Linked stack) (eq : stateOf stack = .beforeAlternate)
    (alternate : List Statement) :
    ∃ node rest, Handle .ifStatement (some (.block alternate)) stack node rest := by
  obtain ⟨keyword, fromConsequent, rfl, consequentState, rfl, -, linked₁⟩ :=
    linked.top_of_single eq rfl (by decide)
  obtain ⟨symbol, fromTest, rfl, testState, ⟨consequent, rfl⟩, -, linked₂⟩ :=
    linked₁.top_of_single consequentState rfl (by decide)
  obtain ⟨symbol, fromKeyword, rfl, keywordState, ⟨op, left, right, rfl⟩, -, linked₃⟩ :=
    linked₂.top_of_single testState rfl (by decide)
  obtain ⟨keyword, rest, rfl, under, rfl, -, -⟩ :=
    linked₃.top_of_single keywordState rfl (by decide)
  exact ⟨_, rest, .ifStatement under⟩

theorem handle_returnStatement (linked : Linked stack) (eq : stateOf stack = .afterReturnKeyword)
    (value : Expression) :
    ∃ node rest, Handle .returnStatement (some (.expression value true)) stack node rest := by
  obtain ⟨keyword, rest, rfl, under, rfl, -, -⟩ := linked.top_of_single eq rfl (by decide)
  exact ⟨_, rest, .returnStatement under⟩

/-- A block finds its brace, unless there is none. -/
theorem handle_block (linked : Linked stack) (eq : stateOf stack = .beforeStatement) :
    (∃ node rest, Handle .block none stack node rest) ∨ ∃ error, Misfit .block stack error := by
  rcases linked.exists_statementEntries eq with ⟨body, rfl⟩ | ⟨body, rest, rfl, under, -⟩
  · exact .inr ⟨_, .unopened body⟩
  · exact .inl ⟨_, rest, .block under⟩

/-- The name of a function in an export, before it is renamed. -/
theorem exists_localName (linked : Linked stack) (eq : stateOf stack = .afterLocalName) :
    ∃ name rest, stateOf rest = .beforeLocalName ∧
      stack = ⟨.afterLocalName, .token (.identifier name)⟩ :: rest := by
  obtain ⟨symbol, rest, rfl, under, shape, fits, -⟩ := linked.top_of_single eq rfl (by decide)
  obtain ⟨name, rfl⟩ := exists_identifier shape fits (by decide)
  exact ⟨name, rest, under, rfl⟩

theorem handle_exportSpecifier (linked : Linked stack)
    (eq : stateOf stack ∈ [.afterLocalName, .afterExportedName]) :
    ∃ node rest, Handle .exportSpecifier none stack node rest := by
  rcases List.mem_cons.1 eq with eq | eq
  · obtain ⟨name, rest, under, rfl⟩ := linked.exists_localName eq
    exact ⟨_, rest, .exportSpecifier under⟩
  · obtain ⟨symbol, fromKeyword, rfl, keywordState, shape, fits, linked₁⟩ :=
      linked.top_of_single (List.mem_singleton.1 eq) rfl (by decide)
    obtain ⟨exportedName, rfl⟩ := exists_identifier shape fits (by decide)
    obtain ⟨keyword, fromName, rfl, nameState, rfl, -, linked₂⟩ :=
      linked₁.top_of_single keywordState rfl (by decide)
    obtain ⟨localName, rest, under, rfl⟩ := linked₂.exists_localName nameState
    exact ⟨_, rest, .renamed under⟩

theorem handle_exportSpecifiers (linked : Linked stack)
    (eq : stateOf stack ∈ [.beforeLocalName, .afterExportSpecifier]) :
    ∃ node rest, Handle .exportSpecifiers none stack node rest := by
  obtain ⟨more, above, specifiers, rest, list, rfl, under, -⟩ :=
    linked.exists_list specifierList eq rfl rfl (by decide) fun _ kind _ => Symbol.shaped_of kind
  exact ⟨_, rest, .exportSpecifiers list (List.mem_singleton.1 under)⟩

/-- The keyword of an export lies before a statement. -/
theorem exists_exportKeyword (linked : Linked stack) (eq : stateOf stack = .afterExportKeyword) :
    ∃ rest, stateOf rest = .beforeStatement ∧
      stack = ⟨.afterExportKeyword, .token (.keyword .exportKeyword)⟩ :: rest := by
  obtain ⟨keyword, rest, rfl, under, rfl, -, -⟩ := linked.top_of_single eq rfl (by decide)
  exact ⟨rest, under, rfl⟩

end Linked

/-- **Where the table calls for a reduction, its handle is there**, apart from the two misfits. -/
theorem exists_handle {stack : List Entry} {symbol : Symbol} {reduction : Reduction}
    (linked : Linked stack) (fits : Fits (stateOf stack) symbol)
    (reduces : action? (stateOf stack) symbol.kind = some (.reduce reduction)) :
    (∃ node rest, Handle reduction symbol.node? stack node rest) ∨
      ∃ error, Misfit reduction stack error ∧ symbol.node? = none := by
  have points := action?_eq_some_iff.1 reduces
  cases reduction with
  | term =>
    obtain ⟨eq, token⟩ := points.imp
      (fun state kind => state = .afterMultiplicativeOperand ∧ kind.isNode = false) (by decide)
    rw [Symbol.node?_eq_none token]
    exact .inl (linked.handle_term eq)
  | fullExpression =>
    obtain ⟨eq, token⟩ := points.imp
      (fun state kind => state ∈ summandStates ∧ kind.isNode = false) (by decide)
    rw [Symbol.node?_eq_none token]
    exact .inl (linked.handle_fullExpression eq)
  | parenthesized =>
    obtain ⟨eq, kind⟩ := points.imp
      (fun state kind => state = .beforeOperand ∧ kind = .fullExpression) (by decide)
    obtain ⟨value, rfl⟩ := Symbol.shaped_of kind
    exact .inl (linked.handle_parenthesized eq (fits.complete value rfl))
  | unaryExpression =>
    obtain ⟨eq, token⟩ := points.imp
      (fun state kind => state = .afterUnaryOperand ∧ kind.isNode = false) (by decide)
    rw [Symbol.node?_eq_none token]
    exact .inl (linked.handle_unaryExpression eq)
  | callExpression =>
    obtain ⟨eq, token⟩ := points.imp
      (fun state kind => state ∈ [.beforeArgument, .afterArgument] ∧ kind.isNode = false) (by decide)
    rw [Symbol.node?_eq_none token]
    rcases linked.handle_callExpression eq with handle | ⟨error, misfit⟩
    · exact .inl handle
    · exact .inr ⟨error, misfit, rfl⟩
  | assignmentExpression =>
    obtain ⟨eq, kind⟩ := points.imp
      (fun state kind => state = .beforeAssignmentRight ∧ kind = .fullExpression) (by decide)
    obtain ⟨value, rfl⟩ := Symbol.shaped_of kind
    exact .inl (linked.handle_assignmentExpression eq value)
  | expressionStatement =>
    obtain ⟨eq, token⟩ := points.imp
      (fun state kind => state = .afterExpression ∧ kind.isNode = false) (by decide)
    rw [Symbol.node?_eq_none token]
    exact .inl (linked.handle_expressionStatement eq)
  | variableDeclaration =>
    -- a semicolon ends a declaration without a value, a node is its value
    have ways := points.imp (fun state kind =>
      (state = .afterVariableName ∧ kind.isNode = false) ∨
        (state = .beforeInit ∧ kind = .fullExpression)) (by decide)
    rcases ways with ⟨eq, token⟩ | ⟨eq, kind⟩
    · rw [Symbol.node?_eq_none token]
      exact .inl (linked.handle_variableDeclaration eq)
    · obtain ⟨value, rfl⟩ := Symbol.shaped_of kind
      exact .inl (linked.handle_initialized eq value)
  | params =>
    obtain ⟨eq, token⟩ := points.imp
      (fun state kind => state ∈ [.beforeParam, .afterParam] ∧ kind.isNode = false) (by decide)
    rw [Symbol.node?_eq_none token]
    exact .inl (linked.handle_params eq)
  | functionDeclaration =>
    obtain ⟨eq, kind⟩ := points.imp
      (fun state kind => state = .beforeBody ∧ kind = .block) (by decide)
    obtain ⟨body, rfl⟩ := Symbol.shaped_of kind
    exact .inl (linked.handle_functionDeclaration eq body)
  | test =>
    obtain ⟨eq, token⟩ := points.imp
      (fun state kind => state = .afterComparison ∧ kind.isNode = false) (by decide)
    rw [Symbol.node?_eq_none token]
    exact .inl (linked.handle_test eq)
  | ifStatement =>
    obtain ⟨eq, kind⟩ := points.imp
      (fun state kind => state = .beforeAlternate ∧ kind = .block) (by decide)
    obtain ⟨alternate, rfl⟩ := Symbol.shaped_of kind
    exact .inl (linked.handle_ifStatement eq alternate)
  | returnStatement =>
    obtain ⟨eq, kind⟩ := points.imp
      (fun state kind => state = .afterReturnKeyword ∧ kind = .fullExpression) (by decide)
    obtain ⟨value, rfl⟩ := Symbol.shaped_of kind
    exact .inl (linked.handle_returnStatement eq value)
  | block =>
    obtain ⟨eq, token⟩ := points.imp
      (fun state kind => state = .beforeStatement ∧ kind.isNode = false) (by decide)
    rw [Symbol.node?_eq_none token]
    rcases linked.handle_block eq with handle | ⟨error, misfit⟩
    · exact .inl handle
    · exact .inr ⟨error, misfit, rfl⟩
  | exportSpecifier =>
    obtain ⟨eq, token⟩ := points.imp
      (fun state kind => state ∈ [.afterLocalName, .afterExportedName] ∧ kind.isNode = false)
      (by decide)
    rw [Symbol.node?_eq_none token]
    exact .inl (linked.handle_exportSpecifier eq)
  | exportSpecifiers =>
    obtain ⟨eq, token⟩ := points.imp
      (fun state kind => state ∈ [.beforeLocalName, .afterExportSpecifier] ∧ kind.isNode = false)
      (by decide)
    rw [Symbol.node?_eq_none token]
    exact .inl (linked.handle_exportSpecifiers eq)
  | exportDeclaration =>
    obtain ⟨eq, kind⟩ := points.imp (fun state kind =>
      state = .afterExportKeyword ∧ (kind = .functionDeclaration ∨ kind = .exportSpecifiers))
      (by decide)
    obtain ⟨rest, under, rfl⟩ := linked.exists_exportKeyword eq
    rcases kind with kind | kind
    · obtain ⟨name, params, body, rfl⟩ := Symbol.shaped_of kind
      exact .inl ⟨_, rest, .exportFunction under⟩
    · obtain ⟨specifiers, rfl⟩ := Symbol.shaped_of kind
      exact .inl ⟨_, rest, .exportList under⟩

/-! ## 3. Where a node goes -/

/-- A node that can be placed: the table has an entry for it, and it may stand there. -/
structure Placeable (state : State) (node : Node) : Prop where
  lookup : (action? state node.kind).isSome
  fits : Fits state (.node node)

theorem additiveStates_subset : ∀ state ∈ additiveStates, state ∈ operandStates := by decide

theorem expressionStates_subset : ∀ state ∈ expressionStates, state ∈ additiveStates := by decide

/-- Where an operand is to come, every operand has a place. -/
theorem Placeable.operand {state : State} {value : Expression} (under : state ∈ operandStates)
    (kind : expressionKind value ∈ operandKinds) : Placeable state (.expression value false) where
  lookup := by
    have all : ∀ state ∈ operandStates, ∀ kind ∈ operandKinds, (action? state kind).isSome := by
      decide
    exact all state under _ kind
  fits := ⟨fun _ _ => List.mem_cons_of_mem _ under, fun _ eq => nomatch eq⟩

/-- Where an expression is to come, every complete expression has a place. -/
theorem Placeable.complete {state : State} {value : Expression} (under : state ∈ expressionStates)
    (kind : expressionKind value ∈ operandKinds) : Placeable state (.expression value true) where
  lookup := by
    have all : ∀ state ∈ expressionStates, (action? state .fullExpression).isSome := by decide
    exact all state under
  fits := ⟨fun _ eq => (nomatch eq), fun _ eq => by cases eq; exact kind⟩

/-- A node that is no expression has a place where the table has an entry for it. -/
theorem Placeable.other {state : State} {node : Node} (lookup : (action? state node.kind).isSome)
    (other : ∀ value complete, node ≠ .expression value complete) : Placeable state node where
  lookup := lookup
  fits := ⟨fun _ eq => absurd (Symbol.node.inj eq) (other _ _),
    fun _ eq => absurd (Symbol.node.inj eq) (other _ _)⟩

/-- Before a statement, every statement has a place. -/
theorem Placeable.statement (value : Statement) : Placeable .beforeStatement (.statement value) := by
  refine .other ?_ fun _ _ eq => nomatch eq
  cases value <;> rfl

namespace Handle

variable {reduction : Reduction} {incoming : Option Node} {stack rest : List Entry} {node : Node}

/-- A reduction leaves the lower part of the stack as it is. -/
theorem exists_append (h : Handle reduction incoming stack node rest) :
    ∃ above, stack = above ++ rest := by
  cases h with
  | term => exact ⟨[_, _, _], rfl⟩
  | fullExpression => exact ⟨_, rfl⟩
  | parenthesized => exact ⟨[_], rfl⟩
  | unaryExpression => exact ⟨[_, _], rfl⟩
  | @callExpression more above arguments symbol callee state =>
    exact ⟨above ++ [_, ⟨state, symbol⟩], by rw [List.append_assoc]; rfl⟩
  | assignmentExpression => exact ⟨[_, _], rfl⟩
  | expressionStatement => exact ⟨[_], rfl⟩
  | variableDeclaration => exact ⟨[_, _], rfl⟩
  | initialized => exact ⟨[_, _, _], rfl⟩
  | @params more above => exact ⟨above ++ [_], by rw [List.append_assoc]; rfl⟩
  | functionDeclaration => exact ⟨[_, _, _], rfl⟩
  | test => exact ⟨[_, _, _, _], rfl⟩
  | ifStatement => exact ⟨[_, _, _, _], rfl⟩
  | returnStatement => exact ⟨[_], rfl⟩
  | @block body => exact ⟨statementEntries body ++ [_], by rw [List.append_assoc]; rfl⟩
  | exportSpecifier => exact ⟨[_], rfl⟩
  | renamed => exact ⟨[_, _, _], rfl⟩
  | @exportSpecifiers more above => exact ⟨above ++ [_], by rw [List.append_assoc]; rfl⟩
  | exportFunction => exact ⟨[_], rfl⟩
  | exportList => exact ⟨[_], rfl⟩

theorem linked (h : Handle reduction incoming stack node rest) (linked : Linked stack) :
    Linked rest := by
  obtain ⟨above, rfl⟩ := h.exists_append
  exact linked.of_append

/-- **A node that was just built has a place.** -/
theorem placeable (h : Handle reduction incoming stack node rest) :
    Placeable (stateOf rest) node := by
  cases h with
  | term onLeft multiplicative onRight after under =>
    exact .operand (additiveStates_subset _ under) (by decide : Kind.binaryExpression ∈ operandKinds)
  | fullExpression sum under => exact .complete under sum.expressionKind_mem
  | parenthesized operand under => exact .operand under operand
  | unaryExpression on additive under =>
    exact .operand under (by decide : Kind.unaryExpression ∈ operandKinds)
  | callExpression list named after under =>
    exact .operand under (by decide : Kind.callExpression ∈ operandKinds)
  | assignmentExpression named under =>
    rw [under]
    exact ⟨rfl, fun _ _ => by decide, fun _ eq => nomatch eq⟩
  | expressionStatement under => exact under ▸ .statement _
  | variableDeclaration under => exact under ▸ .statement _
  | initialized under => exact under ▸ .statement _
  | params list under => exact .other (by rw [under]; rfl) fun _ _ eq => nomatch eq
  | functionDeclaration under =>
    have all : ∀ state ∈ [.beforeStatement, .afterExportKeyword],
        (action? state .functionDeclaration).isSome := by decide
    exact .other (all _ under) fun _ _ eq => nomatch eq
  | test onLeft relational onRight under =>
    rw [under]
    exact ⟨rfl, fun _ _ => by decide, fun _ eq => nomatch eq⟩
  | ifStatement under => exact under ▸ .statement _
  | returnStatement under => exact under ▸ .statement _
  | block under =>
    have all : ∀ state ∈ [.beforeBody, .beforeConsequent, .beforeAlternate],
        (action? state .block).isSome := by decide
    exact .other (all _ under) fun _ _ eq => nomatch eq
  | exportSpecifier under => exact .other (by rw [under]; rfl) fun _ _ eq => nomatch eq
  | renamed under => exact .other (by rw [under]; rfl) fun _ _ eq => nomatch eq
  | exportSpecifiers list under => exact .other (by rw [under]; rfl) fun _ _ eq => nomatch eq
  | exportFunction under => exact under ▸ .statement _
  | exportList under => exact under ▸ .statement _

end Handle

end NumScript.Automaton
