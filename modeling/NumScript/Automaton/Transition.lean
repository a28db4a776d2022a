import NumScript.Automaton.Alphabet

/-!
# The transition table

A STATE is a point inside a rule of the language, such as "before a statement" or "after the operator
of a sum". The table says for a state and the kind of the next symbol whether the symbol is put on
the stack, which leads to another state (`Action.shift`), or a node is built first from what already
lies there (`Action.reduce`). A pair without an entry is a fault of the script.

The table is data, one row a state (`row`), so facts about it are decided by looking at all entries.
What is asked of a table before it is used holds of this one (`validTable_row`).
-/

namespace NumScript.Automaton

/-! ## 1. States -/

/-- A point inside a rule of the language. -/
inductive State where
  | beforeStatement
  | afterIdentifier
  | afterExpression
  | beforeOperand
  | afterUnaryOperator
  | afterUnaryOperand
  | afterAdditiveOperator
  | afterAdditiveOperand
  | afterMultiplicativeOperator
  | afterMultiplicativeOperand
  | beforeArgument
  | afterArgument
  | beforeAssignmentRight
  | afterVariableKeyword
  | afterVariableName
  | beforeInit
  | afterFunctionKeyword
  | afterFunctionName
  | beforeParam
  | afterParam
  | beforeBody
  | afterIfKeyword
  | beforeTestOperand
  | afterTestOperand
  | afterRelationalOperator
  | afterComparison
  | beforeConsequent
  | afterConsequent
  | beforeAlternate
  | afterReturnKeyword
  | afterExportKeyword
  | beforeLocalName
  | afterLocalName
  | beforeExportedName
  | afterExportedName
  | afterExportSpecifier
deriving DecidableEq

namespace State

/-- All states. -/
def all : List State :=
  [.beforeStatement, .afterIdentifier, .afterExpression, .beforeOperand, .afterUnaryOperator,
    .afterUnaryOperand, .afterAdditiveOperator, .afterAdditiveOperand,
    .afterMultiplicativeOperator, .afterMultiplicativeOperand, .beforeArgument, .afterArgument,
    .beforeAssignmentRight, .afterVariableKeyword, .afterVariableName, .beforeInit,
    .afterFunctionKeyword, .afterFunctionName, .beforeParam, .afterParam, .beforeBody,
    .afterIfKeyword, .beforeTestOperand, .afterTestOperand, .afterRelationalOperator,
    .afterComparison, .beforeConsequent, .afterConsequent, .beforeAlternate, .afterReturnKeyword,
    .afterExportKeyword, .beforeLocalName, .afterLocalName, .beforeExportedName,
    .afterExportedName, .afterExportSpecifier]

theorem mem_all (state : State) : state ∈ all := by cases state <;> decide

/-- The name of the state. -/
def name : State → String
  | .beforeStatement => "BeforeStatement"
  | .afterIdentifier => "AfterIdentifier"
  | .afterExpression => "AfterExpression"
  | .beforeOperand => "BeforeOperand"
  | .afterUnaryOperator => "AfterUnaryOperator"
  | .afterUnaryOperand => "AfterUnaryOperand"
  | .afterAdditiveOperator => "AfterAdditiveOperator"
  | .afterAdditiveOperand => "AfterAdditiveOperand"
  | .afterMultiplicativeOperator => "AfterMultiplicativeOperator"
  | .afterMultiplicativeOperand => "AfterMultiplicativeOperand"
  | .beforeArgument => "BeforeArgument"
  | .afterArgument => "AfterArgument"
  | .beforeAssignmentRight => "BeforeAssignmentRight"
  | .afterVariableKeyword => "AfterVariableKeyword"
  | .afterVariableName => "AfterVariableName"
  | .beforeInit => "BeforeInit"
  | .afterFunctionKeyword => "AfterFunctionKeyword"
  | .afterFunctionName => "AfterFunctionName"
  | .beforeParam => "BeforeParam"
  | .afterParam => "AfterParam"
  | .beforeBody => "BeforeBody"
  | .afterIfKeyword => "AfterIfKeyword"
  | .beforeTestOperand => "BeforeTestOperand"
  | .afterTestOperand => "AfterTestOperand"
  | .afterRelationalOperator => "AfterRelationalOperator"
  | .afterComparison => "AfterComparison"
  | .beforeConsequent => "BeforeConsequent"
  | .afterConsequent => "AfterConsequent"
  | .beforeAlternate => "BeforeAlternate"
  | .afterReturnKeyword => "AfterReturnKeyword"
  | .afterExportKeyword => "AfterExportKeyword"
  | .beforeLocalName => "BeforeLocalName"
  | .afterLocalName => "AfterLocalName"
  | .beforeExportedName => "BeforeExportedName"
  | .afterExportedName => "AfterExportedName"
  | .afterExportSpecifier => "AfterExportSpecifier"

end State

/-! ## 2. Reductions -/

/-- A rule that builds one node from the symbols on the top of the stack. -/
inductive Reduction where
  | term
  | fullExpression
  | parenthesized
  | unaryExpression
  | callExpression
  | assignmentExpression
  | expressionStatement
  | variableDeclaration
  | params
  | functionDeclaration
  | test
  | ifStatement
  | returnStatement
  | block
  | exportSpecifier
  | exportSpecifiers
  | exportDeclaration
deriving DecidableEq

/-- What sets off a reduction: the next token, or a node that was just built. -/
inductive Trigger where
  | token
  | node
  | either
deriving DecidableEq

namespace Reduction

/-- All reductions. -/
def all : List Reduction :=
  [.term, .fullExpression, .parenthesized, .unaryExpression, .callExpression, .assignmentExpression,
    .expressionStatement, .variableDeclaration, .params, .functionDeclaration, .test, .ifStatement,
    .returnStatement, .block, .exportSpecifier, .exportSpecifiers, .exportDeclaration]

theorem mem_all (reduction : Reduction) : reduction ∈ all := by cases reduction <;> decide

/-- The name of the reduction. -/
def name : Reduction → String
  | .term => "Term"
  | .fullExpression => "FullExpression"
  | .parenthesized => "Parenthesized"
  | .unaryExpression => "UnaryExpression"
  | .callExpression => "CallExpression"
  | .assignmentExpression => "AssignmentExpression"
  | .expressionStatement => "ExpressionStatement"
  | .variableDeclaration => "VariableDeclaration"
  | .params => "Params"
  | .functionDeclaration => "FunctionDeclaration"
  | .test => "Test"
  | .ifStatement => "IfStatement"
  | .returnStatement => "ReturnStatement"
  | .block => "BlockStatement"
  | .exportSpecifier => "ExportSpecifier"
  | .exportSpecifiers => "ExportSpecifiers"
  | .exportDeclaration => "ExportDeclaration"

/-- What sets off the reduction. -/
def trigger : Reduction → Trigger
  | .parenthesized | .assignmentExpression | .functionDeclaration | .ifStatement | .returnStatement
  | .exportDeclaration => .node
  | .variableDeclaration => .either
  | _ => .token

end Reduction

/-! ## 3. The table -/

/-- What the automaton does with the next symbol. -/
inductive Action where
  /-- The symbol goes on the stack and leads to this state. -/
  | shift (next : State)
  /-- First a node is built by this reduction. -/
  | reduce (reduction : Reduction)
deriving DecidableEq

/-- The action as a trace writes it. -/
def Action.name : Action → String
  | .shift next => "Shift(" ++ next.name ++ ")"
  | .reduce reduction => "Reduce(" ++ reduction.name ++ ")"

/-- The entries of one state. -/
abbrev Row := List (Kind × Action)

/-- The entries with which an operand begins; an operand that is already there leads to `after`. -/
def operandStart (after : State) : Row :=
  [(.numericLiteral, .shift after),
    (.identifier, .shift after),
    (.unaryExpression, .shift after),
    (.binaryExpression, .shift after),
    (.callExpression, .shift after),
    (.operator .additive, .shift .afterUnaryOperator),
    (.mark .leftParen, .shift .beforeOperand)]

/-- The entries of each state. -/
def row : State → Row
  | .beforeStatement =>
    [(.identifier, .shift .afterIdentifier),
      (.numericLiteral, .shift .afterAdditiveOperand),
      (.unaryExpression, .shift .afterAdditiveOperand),
      (.binaryExpression, .shift .afterAdditiveOperand),
      (.callExpression, .shift .afterAdditiveOperand),
      (.operator .additive, .shift .afterUnaryOperator),
      (.mark .leftParen, .shift .beforeOperand),
      (.keyword .varKeyword, .shift .afterVariableKeyword),
      (.keyword .function, .shift .afterFunctionKeyword),
      (.keyword .ifKeyword, .shift .afterIfKeyword),
      (.keyword .returnKeyword, .shift .afterReturnKeyword),
      (.keyword .exportKeyword, .shift .afterExportKeyword),
      (.assignmentExpression, .shift .afterExpression),
      (.fullExpression, .shift .afterExpression),
      (.expressionStatement, .shift .beforeStatement),
      (.variableDeclaration, .shift .beforeStatement),
      (.functionDeclaration, .shift .beforeStatement),
      (.ifStatement, .shift .beforeStatement),
      (.returnStatement, .shift .beforeStatement),
      (.exportDeclaration, .shift .beforeStatement),
      (.mark .rightBrace, .reduce .block)]
  | .afterIdentifier =>
    [(.mark .assign, .shift .beforeAssignmentRight),
      (.mark .leftParen, .shift .beforeArgument),
      (.operator .additive, .shift .afterAdditiveOperator),
      (.operator .multiplicative, .shift .afterMultiplicativeOperator),
      (.mark .semicolon, .reduce .fullExpression)]
  | .afterExpression => [(.mark .semicolon, .reduce .expressionStatement)]
  -- expressions
  | .beforeOperand =>
    operandStart .afterAdditiveOperand ++ [(.fullExpression, .reduce .parenthesized)]
  | .afterUnaryOperator => operandStart .afterUnaryOperand
  | .afterUnaryOperand =>
    [(.mark .leftParen, .shift .beforeArgument),
      (.operator .additive, .reduce .unaryExpression),
      (.operator .multiplicative, .reduce .unaryExpression),
      (.mark .rightParen, .reduce .unaryExpression),
      (.mark .semicolon, .reduce .unaryExpression),
      (.mark .comma, .reduce .unaryExpression)]
  | .afterAdditiveOperator => operandStart .afterAdditiveOperand
  | .afterAdditiveOperand =>
    [(.operator .additive, .shift .afterAdditiveOperator),
      (.operator .multiplicative, .shift .afterMultiplicativeOperator),
      (.mark .leftParen, .shift .beforeArgument),
      (.mark .rightParen, .reduce .fullExpression),
      (.mark .semicolon, .reduce .fullExpression),
      (.mark .comma, .reduce .fullExpression)]
  | .afterMultiplicativeOperator => operandStart .afterMultiplicativeOperand
  | .afterMultiplicativeOperand =>
    [(.mark .leftParen, .shift .beforeArgument),
      (.operator .additive, .reduce .term),
      (.operator .multiplicative, .reduce .term),
      (.mark .rightParen, .reduce .term),
      (.mark .semicolon, .reduce .term),
      (.mark .comma, .reduce .term)]
  | .beforeArgument =>
    operandStart .afterAdditiveOperand ++
      [(.fullExpression, .shift .afterArgument),
        (.mark .rightParen, .reduce .callExpression)]
  | .afterArgument =>
    [(.mark .comma, .shift .beforeArgument),
      (.mark .rightParen, .reduce .callExpression)]
  | .beforeAssignmentRight =>
    operandStart .afterAdditiveOperand ++ [(.fullExpression, .reduce .assignmentExpression)]
  -- variables
  | .afterVariableKeyword => [(.identifier, .shift .afterVariableName)]
  | .afterVariableName =>
    [(.mark .semicolon, .reduce .variableDeclaration),
      (.mark .assign, .shift .beforeInit)]
  | .beforeInit =>
    operandStart .afterAdditiveOperand ++ [(.fullExpression, .reduce .variableDeclaration)]
  -- functions
  | .afterFunctionKeyword => [(.identifier, .shift .afterFunctionName)]
  | .afterFunctionName =>
    [(.mark .leftParen, .shift .beforeParam),
      (.params, .shift .beforeBody)]
  | .beforeParam =>
    [(.identifier, .shift .afterParam),
      (.mark .rightParen, .reduce .params)]
  | .afterParam =>
    [(.mark .comma, .shift .beforeParam),
      (.mark .rightParen, .reduce .params)]
  | .beforeBody =>
    [(.mark .leftBrace, .shift .beforeStatement),
      (.block, .reduce .functionDeclaration)]
  -- conditions
  | .afterIfKeyword =>
    [(.mark .leftParen, .shift .beforeTestOperand),
      (.binaryExpression, .shift .beforeConsequent)]
  | .beforeTestOperand =>
    [(.numericLiteral, .shift .afterTestOperand),
      (.identifier, .shift .afterTestOperand)]
  | .afterTestOperand => [(.operator .relational, .shift .afterRelationalOperator)]
  | .afterRelationalOperator =>
    [(.numericLiteral, .shift .afterComparison),
      (.identifier, .shift .afterComparison)]
  | .afterComparison => [(.mark .rightParen, .reduce .test)]
  | .beforeConsequent =>
    [(.mark .leftBrace, .shift .beforeStatement),
      (.block, .shift .afterConsequent)]
  | .afterConsequent => [(.keyword .elseKeyword, .shift .beforeAlternate)]
  | .beforeAlternate =>
    [(.mark .leftBrace, .shift .beforeStatement),
      (.block, .reduce .ifStatement)]
  -- results
  | .afterReturnKeyword =>
    operandStart .afterAdditiveOperand ++ [(.fullExpression, .reduce .returnStatement)]
  -- exports
  | .afterExportKeyword =>
    [(.mark .leftBrace, .shift .beforeLocalName),
      (.keyword .function, .shift .afterFunctionKeyword),
      (.functionDeclaration, .reduce .exportDeclaration),
      (.exportSpecifiers, .reduce .exportDeclaration)]
  | .beforeLocalName =>
    [(.identifier, .shift .afterLocalName),
      (.exportSpecifier, .shift .afterExportSpecifier),
      (.mark .rightBrace, .reduce .exportSpecifiers)]
  | .afterLocalName =>
    [(.keyword .asKeyword, .shift .beforeExportedName),
      (.mark .comma, .reduce .exportSpecifier),
      (.mark .rightBrace, .reduce .exportSpecifier)]
  | .beforeExportedName => [(.identifier, .shift .afterExportedName)]
  | .afterExportedName =>
    [(.mark .comma, .reduce .exportSpecifier),
      (.mark .rightBrace, .reduce .exportSpecifier)]
  | .afterExportSpecifier =>
    [(.mark .comma, .shift .beforeLocalName),
      (.mark .rightBrace, .reduce .exportSpecifiers)]

/-- What the automaton does in this state with a symbol of this kind. -/
def action? (state : State) (kind : Kind) : Option Action := (row state).lookup kind

/-! ## 4. The table is sound -/

/-- No row has two entries for one kind. -/
theorem row_keys_nodup (state : State) : ((row state).map Prod.fst).Nodup := by
  cases state <;> decide

/-- Whether this trigger admits a kind. A name or a number may be a token or a node, so it can set off
    only what either sets off. -/
def Trigger.admits : Trigger → Kind → Bool
  | .token, kind => kind.isToken && !kind.isNode
  | .node, kind => kind.isNode && !kind.isToken
  | .either, _ => true

/-- Every reduction in the table stands under a kind that its trigger admits. -/
theorem trigger_admits (state : State) : (row state).all (fun entry =>
    match entry.2 with
    | .shift _ => true
    | .reduce reduction => reduction.trigger.admits entry.1) = true := by
  cases state <;> decide

/-- The state that an entry leads to, if it is a shift. -/
def Action.next? : Action → Option State
  | .shift next => some next
  | .reduce _ => none

/-- The states that shifts lead to from the one in which a script begins. -/
inductive Reachable (rows : State → Row) : State → Prop
  | start : Reachable rows .beforeStatement
  | shift {state next : State} {kind : Kind} (reached : Reachable rows state)
      (entry : (kind, .shift next) ∈ rows state) : Reachable rows next

/-- The states that are found in so many rounds, each of which follows all shifts from those found
    before. -/
def explored (rows : State → Row) : Nat → List State
  | 0 => [.beforeStatement]
  | rounds + 1 =>
    let found := explored rows rounds
    (found ++ found.flatMap fun state => (rows state).filterMap fun entry => entry.2.next?).eraseDups

theorem reachable_of_explored {rows : State → Row} : ∀ {rounds : Nat} {state : State},
    state ∈ explored rows rounds → Reachable rows state
  | 0, state, found => by
    cases List.mem_singleton.mp found
    exact .start
  | rounds + 1, state, found => by
    rw [explored, List.mem_eraseDups, List.mem_append, List.mem_flatMap] at found
    rcases found with found | ⟨before, found, led⟩
    · exact reachable_of_explored found
    · obtain ⟨⟨kind, action⟩, entry, next⟩ := List.mem_filterMap.mp led
      cases action with
      | shift after =>
        cases next
        exact .shift (reachable_of_explored found) entry
      | reduce reduction => cases next

/-- What is checked of a table before it is used. -/
structure ValidTable (rows : State → Row) : Prop where
  /-- No row has two entries for one kind. -/
  distinct : ∀ state, ((rows state).map Prod.fst).Nodup
  /-- Every reduction stands under a kind that its trigger admits. -/
  admitted : ∀ state kind reduction, (kind, .reduce reduction) ∈ rows state →
    reduction.trigger.admits kind = true
  /-- Every state has an entry. -/
  entered : ∀ state, rows state ≠ []
  /-- Every state is reachable. -/
  reachable : ∀ state, Reachable rows state
  /-- Every reduction is used. -/
  used : ∀ reduction, ∃ state kind, (kind, .reduce reduction) ∈ rows state

theorem mem_explored : ∀ state ∈ State.all, state ∈ explored row 5 := by decide +kernel

theorem exists_reduce : ∀ reduction ∈ Reduction.all, ∃ state ∈ State.all, ∃ entry ∈ row state,
    entry.2 = .reduce reduction := by decide +kernel

/-- **The table passes every check**, so no script is refused for the table. -/
theorem validTable_row : ValidTable row where
  distinct := row_keys_nodup
  admitted state kind reduction entry := List.all_eq_true.mp (trigger_admits state) _ entry
  entered state := by cases state <;> exact List.cons_ne_nil _ _
  reachable state := reachable_of_explored (mem_explored state state.mem_all)
  used reduction := by
    obtain ⟨state, -, ⟨kind, _⟩, entry, rfl⟩ := exists_reduce reduction reduction.mem_all
    exact ⟨state, kind, entry⟩

end NumScript.Automaton
