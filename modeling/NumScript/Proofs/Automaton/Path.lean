import NumScript.Automaton.Run

/-!
# The stack is a path through the table

Each entry of the stack was put there by a shift from the state under it (`Linked`). So the state of
an entry says what its symbol can be and which state can lie under it; this is the table read
backwards (`arrivals`), and the places where a reduction is called for are read in the same way
(`reductionPoints`).

A name or a number has the same kind whether it is a token or a node. A node of this kind was in
parentheses, and only an operand can be. `Fits` says so, because some reductions take only tokens.
-/

namespace NumScript.Automaton

/-! ## 1. What a kind says about a symbol -/

/-- The kinds of operands. An assignment is none. -/
def operandKinds : List Kind :=
  [.numericLiteral, .identifier, .unaryExpression, .binaryExpression, .callExpression]

/-- A symbol that stands for an operand: a name, a number, or an expression that is not complete. -/
inductive Operand : Symbol → Expression → Prop
  | name (name : String) : Operand (.token (.identifier name)) (.var name)
  | number (value : Binary64) : Operand (.token (.number value)) (.number value)
  | node {value : Expression} (operand : expressionKind value ∈ operandKinds) :
      Operand (.node (.expression value false)) value

/-- The kinds of statements. -/
def statementKinds : List Kind :=
  [.expressionStatement, .variableDeclaration, .functionDeclaration, .ifStatement,
    .returnStatement, .exportDeclaration]

namespace Operand

variable {symbol : Symbol} {value : Expression}

theorem expression? (h : Operand symbol value) : symbol.expression? = some value := by
  cases h <;> rfl

theorem isChainElement (h : Operand symbol value) : symbol.isChainElement = true := by
  cases h <;> rfl

theorem kind (h : Operand symbol value) : symbol.kind = expressionKind value := by
  cases h <;> rfl

theorem expressionKind_mem (h : Operand symbol value) : expressionKind value ∈ operandKinds := by
  cases h with
  | name => exact (by decide : Kind.identifier ∈ operandKinds)
  | number => exact (by decide : Kind.numericLiteral ∈ operandKinds)
  | node operand => exact operand

theorem name? {name : String} (h : Operand symbol (.var name)) : symbol.name? = some name := by
  cases h <;> rfl

end Operand

/-- What a symbol of this kind is. -/
def Symbol.Shaped (symbol : Symbol) : Kind → Prop
  | .keyword word => symbol = .token (.keyword word)
  | .operator operatorClass =>
    ∃ op, symbol = .token (.operator op) ∧ op.operatorClass = operatorClass
  | .mark sign => symbol = .token (.mark sign)
  | .identifier => ∃ name, Operand symbol (.var name)
  | .numericLiteral => ∃ value, Operand symbol (.number value)
  | .unaryExpression => ∃ op operand, symbol = .node (.expression (.unary op operand) false)
  | .binaryExpression => ∃ op left right, symbol = .node (.expression (.binary op left right) false)
  | .callExpression =>
    ∃ callee arguments, symbol = .node (.expression (.call callee arguments) false)
  | .assignmentExpression =>
    ∃ target value, symbol = .node (.expression (.assign target value) false)
  | .fullExpression => ∃ value, symbol = .node (.expression value true)
  | .functionDeclaration => ∃ name params body, symbol = .node (.statement (.function name params body))
  | .expressionStatement | .variableDeclaration | .ifStatement | .returnStatement
  | .exportDeclaration => ∃ statement, symbol = .node (.statement statement)
  | .block => ∃ body, symbol = .node (.block body)
  | .params => ∃ names, symbol = .node (.params names)
  | .exportSpecifier => ∃ specifier, symbol = .node (.exportSpecifier specifier)
  | .exportSpecifiers => ∃ specifiers, symbol = .node (.exportSpecifiers specifiers)

theorem Node.isNode_kind (node : Node) : node.kind.isNode = true := by
  cases node with
  | expression value complete => cases complete <;> cases value <;> rfl
  | statement value => cases value <;> rfl
  | _ => rfl

theorem isToken_tokenKind (token : Token) : (tokenKind token).isToken = true := by
  cases token with
  | keyword word => cases word <;> rfl
  | operator op => cases op <;> rfl
  | mark sign => cases sign <;> rfl
  | _ => rfl

namespace Symbol

/-- The node that a symbol is, if it is one. -/
def node? : Symbol → Option Node
  | .token _ => none
  | .node value => some value

/-- Every symbol is what its kind says. -/
theorem shaped (symbol : Symbol) : symbol.Shaped symbol.kind := by
  rcases symbol with token | node
  · cases token with
    | keyword word => exact rfl
    | operator op => exact ⟨op, rfl, rfl⟩
    | mark sign => exact rfl
    | identifier name => exact ⟨name, .name name⟩
    | number value => exact ⟨value, .number value⟩
  · cases node with
    | expression value complete =>
      cases complete with
      | true => exact ⟨value, rfl⟩
      | false =>
        cases value with
        | number value => exact ⟨value, .node (by decide : Kind.numericLiteral ∈ operandKinds)⟩
        | var name => exact ⟨name, .node (by decide : Kind.identifier ∈ operandKinds)⟩
        | binary op left right => exact ⟨op, left, right, rfl⟩
        | unary op operand => exact ⟨op, operand, rfl⟩
        | call callee arguments => exact ⟨callee, arguments, rfl⟩
        | assign target value => exact ⟨target, value, rfl⟩
    | statement value =>
      cases value with
      | function name params body => exact ⟨name, params, body, rfl⟩
      | _ => exact ⟨_, rfl⟩
    | _ => exact ⟨_, rfl⟩

variable {symbol : Symbol}

theorem shaped_of {kind : Kind} (h : symbol.kind = kind) : symbol.Shaped kind := h ▸ symbol.shaped

theorem eq_mark {token : Token} {sign : Mark} (h : tokenKind token = .mark sign) :
    token = .mark sign := by
  have eq : (Symbol.token token).Shaped (.mark sign) := h ▸ (Symbol.token token).shaped
  exact Symbol.token.inj eq

theorem node?_eq_none (h : symbol.kind.isNode = false) : symbol.node? = none := by
  cases symbol with
  | token value => rfl
  | node value =>
    have isNode : value.kind.isNode = false := h
    rw [value.isNode_kind] at isNode
    cases isNode

theorem exists_operand (h : symbol.kind ∈ operandKinds) : ∃ value, Operand symbol value := by
  have shape := symbol.shaped
  simp only [operandKinds, List.mem_cons, List.not_mem_nil, or_false] at h
  rcases h with kind | kind | kind | kind | kind <;> rw [kind] at shape
  · obtain ⟨value, operand⟩ := shape
    exact ⟨_, operand⟩
  · obtain ⟨name, operand⟩ := shape
    exact ⟨_, operand⟩
  · obtain ⟨op, operand, rfl⟩ := shape
    exact ⟨_, .node (by decide : Kind.unaryExpression ∈ operandKinds)⟩
  · obtain ⟨op, left, right, rfl⟩ := shape
    exact ⟨_, .node (by decide : Kind.binaryExpression ∈ operandKinds)⟩
  · obtain ⟨callee, arguments, rfl⟩ := shape
    exact ⟨_, .node (by decide : Kind.callExpression ∈ operandKinds)⟩

theorem exists_statement (h : symbol.kind ∈ statementKinds) :
    ∃ statement, symbol = .node (.statement statement) := by
  have shape := symbol.shaped
  simp only [statementKinds, List.mem_cons, List.not_mem_nil, or_false] at h
  rcases h with kind | kind | kind | kind | kind | kind <;> rw [kind] at shape
  case inr.inr.inl =>
    obtain ⟨name, params, body, rfl⟩ := shape
    exact ⟨_, rfl⟩
  all_goals exact shape

end Symbol

/-! ## 2. The table read backwards -/

/-- The states in which a whole expression is to come. -/
def expressionStates : List State :=
  [.beforeStatement, .beforeOperand, .beforeArgument, .beforeAssignmentRight, .beforeInit,
    .afterReturnKeyword]

/-- The states in which a product or a single operand is to come. -/
def additiveStates : List State := .afterAdditiveOperator :: expressionStates

/-- The states in which an operand is to come. -/
def operandStates : List State :=
  .afterUnaryOperator :: .afterMultiplicativeOperator :: additiveStates

/-- The states after an operand of a sum. -/
def summandStates : List State := [.afterIdentifier, .afterAdditiveOperand]

/-- The states after an operand. -/
def calleeStates : List State := .afterUnaryOperand :: .afterMultiplicativeOperand :: summandStates

/-- Some states and some kinds, each state with each kind. -/
abbrev Points := List State × List Kind

/-- Whether a state and a kind are among these points. -/
def Among (points : List Points) (state : State) (kind : Kind) : Prop :=
  ∃ point ∈ points, state ∈ point.1 ∧ kind ∈ point.2

theorem Among.imp {points : List Points} {state : State} {kind : Kind}
    (h : Among points state kind) (P : State → Kind → Prop)
    (all : ∀ point ∈ points, ∀ state ∈ point.1, ∀ kind ∈ point.2, P state kind) : P state kind := by
  obtain ⟨point, mem, memState, memKind⟩ := h
  exact all point mem state memState kind memKind

/-- Where a state is reached from, and with what. -/
def arrivals : State → List Points
  | .beforeStatement =>
    [([.beforeStatement], statementKinds),
      ([.beforeBody, .beforeConsequent, .beforeAlternate], [.mark .leftBrace])]
  | .afterIdentifier => [([.beforeStatement], [.identifier])]
  | .afterExpression => [([.beforeStatement], [.assignmentExpression, .fullExpression])]
  | .beforeOperand => [(operandStates, [.mark .leftParen])]
  | .afterUnaryOperator => [(operandStates, [.operator .additive])]
  | .afterUnaryOperand => [([.afterUnaryOperator], operandKinds)]
  | .afterAdditiveOperator => [(summandStates, [.operator .additive])]
  | .afterAdditiveOperand =>
    [([.beforeStatement], operandKinds.erase .identifier),
      (additiveStates.erase .beforeStatement, operandKinds)]
  | .afterMultiplicativeOperator => [(summandStates, [.operator .multiplicative])]
  | .afterMultiplicativeOperand => [([.afterMultiplicativeOperator], operandKinds)]
  | .beforeArgument => [(calleeStates, [.mark .leftParen]), ([.afterArgument], [.mark .comma])]
  | .afterArgument => [([.beforeArgument], [.fullExpression])]
  | .beforeAssignmentRight => [([.afterIdentifier], [.mark .assign])]
  | .afterVariableKeyword => [([.beforeStatement], [.keyword .varKeyword])]
  | .afterVariableName => [([.afterVariableKeyword], [.identifier])]
  | .beforeInit => [([.afterVariableName], [.mark .assign])]
  | .afterFunctionKeyword => [([.beforeStatement, .afterExportKeyword], [.keyword .function])]
  | .afterFunctionName => [([.afterFunctionKeyword], [.identifier])]
  | .beforeParam => [([.afterFunctionName], [.mark .leftParen]), ([.afterParam], [.mark .comma])]
  | .afterParam => [([.beforeParam], [.identifier])]
  | .beforeBody => [([.afterFunctionName], [.params])]
  | .afterIfKeyword => [([.beforeStatement], [.keyword .ifKeyword])]
  | .beforeTestOperand => [([.afterIfKeyword], [.mark .leftParen])]
  | .afterTestOperand => [([.beforeTestOperand], [.numericLiteral, .identifier])]
  | .afterRelationalOperator => [([.afterTestOperand], [.operator .relational])]
  | .afterComparison => [([.afterRelationalOperator], [.numericLiteral, .identifier])]
  | .beforeConsequent => [([.afterIfKeyword], [.binaryExpression])]
  | .afterConsequent => [([.beforeConsequent], [.block])]
  | .beforeAlternate => [([.afterConsequent], [.keyword .elseKeyword])]
  | .afterReturnKeyword => [([.beforeStatement], [.keyword .returnKeyword])]
  | .afterExportKeyword => [([.beforeStatement], [.keyword .exportKeyword])]
  | .beforeLocalName =>
    [([.afterExportKeyword], [.mark .leftBrace]), ([.afterExportSpecifier], [.mark .comma])]
  | .afterLocalName => [([.beforeLocalName], [.identifier])]
  | .beforeExportedName => [([.afterLocalName], [.keyword .asKeyword])]
  | .afterExportedName => [([.beforeExportedName], [.identifier])]
  | .afterExportSpecifier => [([.beforeLocalName], [.exportSpecifier])]

/-- The kinds after which an operand has ended. -/
def operandEnds : List Kind :=
  [.operator .additive, .operator .multiplicative, .mark .rightParen, .mark .semicolon, .mark .comma]

/-- The kinds after which an expression has ended. -/
def expressionEnds : List Kind := [.mark .rightParen, .mark .semicolon, .mark .comma]

/-- Where a reduction is called for, and by what. -/
def reductionPoints : Reduction → List Points
  | .term => [([.afterMultiplicativeOperand], operandEnds)]
  | .fullExpression =>
    [([.afterIdentifier], [.mark .semicolon]), ([.afterAdditiveOperand], expressionEnds)]
  | .parenthesized => [([.beforeOperand], [.fullExpression])]
  | .unaryExpression => [([.afterUnaryOperand], operandEnds)]
  | .callExpression => [([.beforeArgument, .afterArgument], [.mark .rightParen])]
  | .assignmentExpression => [([.beforeAssignmentRight], [.fullExpression])]
  | .expressionStatement => [([.afterExpression], [.mark .semicolon])]
  | .variableDeclaration =>
    [([.afterVariableName], [.mark .semicolon]), ([.beforeInit], [.fullExpression])]
  | .params => [([.beforeParam, .afterParam], [.mark .rightParen])]
  | .functionDeclaration => [([.beforeBody], [.block])]
  | .test => [([.afterComparison], [.mark .rightParen])]
  | .ifStatement => [([.beforeAlternate], [.block])]
  | .returnStatement => [([.afterReturnKeyword], [.fullExpression])]
  | .block => [([.beforeStatement], [.mark .rightBrace])]
  | .exportSpecifier =>
    [([.afterLocalName, .afterExportedName], [.mark .comma, .mark .rightBrace])]
  | .exportSpecifiers => [([.beforeLocalName, .afterExportSpecifier], [.mark .rightBrace])]
  | .exportDeclaration => [([.afterExportKeyword], [.functionDeclaration, .exportSpecifiers])]

/-- Where an action is called for, and by what. -/
def actionPoints : Action → List Points
  | .shift next => arrivals next
  | .reduce reduction => reductionPoints reduction

instance (points : List Points) (state : State) (kind : Kind) :
    Decidable (Among points state kind) :=
  inferInstanceAs (Decidable (∃ point ∈ points, state ∈ point.1 ∧ kind ∈ point.2))

theorem mem_row_of_action? {state : State} {kind : Kind} {action : Action}
    (h : action? state kind = some action) : (kind, action) ∈ row state := by
  obtain ⟨before, after, eq, -⟩ := List.lookup_eq_some_iff.1 h
  rw [eq]
  exact List.mem_append_right _ (List.mem_cons_self ..)

/-- **The table read backwards.** -/
theorem action?_eq_some_iff {state : State} {kind : Kind} {action : Action} :
    action? state kind = some action ↔ Among (actionPoints action) state kind := by
  constructor
  · intro h
    have backwards : ∀ entry ∈ row state, Among (actionPoints entry.2) state entry.1 := by
      cases state <;> decide
    exact backwards _ (mem_row_of_action? h)
  · intro h
    obtain ⟨point, mem, memState, memKind⟩ := h
    have forwards : ∀ point ∈ actionPoints action, ∀ state ∈ point.1, ∀ kind ∈ point.2,
        action? state kind = some action := by
      cases action with
      | shift next => cases next <;> decide
      | reduce reduction => cases reduction <;> decide
    exact forwards point mem state memState kind memKind

/-! ## 3. Linked stacks -/

/-- The state on the top of a stack. -/
def stateOf : List Entry → State
  | [] => .beforeStatement
  | entry :: _ => entry.state

theorem Config.state_eq (config : Config) : config.state = stateOf config.stack := by
  unfold Config.state stateOf
  cases config.stack <;> rfl

/-- An expression that is not complete has a place only where an operand or a test is to come, and
    one that is complete is never an assignment. -/
structure Fits (below : State) (symbol : Symbol) : Prop where
  incomplete : ∀ value, symbol = .node (.expression value false) →
    below ∈ .afterIfKeyword :: operandStates
  complete : ∀ value, symbol = .node (.expression value true) → expressionKind value ∈ operandKinds

theorem fits_token (below : State) (token : Token) : Fits below (.token token) := by
  constructor <;> intro value eq <;> cases eq

/-- Each entry was put on the stack by a shift from the state under it. -/
inductive Linked : List Entry → Prop
  | nil : Linked []
  | cons {entry : Entry} {rest : List Entry}
      (shift : action? (stateOf rest) entry.symbol.kind = some (.shift entry.state))
      (fits : Fits (stateOf rest) entry.symbol) (linked : Linked rest) : Linked (entry :: rest)

namespace Linked

variable {stack rest : List Entry} {entry : Entry}

theorem shift_of_cons (h : Linked (entry :: rest)) :
    action? (stateOf rest) entry.symbol.kind = some (.shift entry.state) := by
  cases h with
  | cons shift fits linked => exact shift

theorem tail (h : Linked (entry :: rest)) : Linked rest := by
  cases h with
  | cons shift fits linked => exact linked

theorem of_append {above : List Entry} (h : Linked (above ++ rest)) : Linked rest := by
  induction above with
  | nil => exact h
  | cons entry above ih => exact ih h.tail

/-- In every state but the first there is an entry on the top, and what the table says of all ways
    to arrive there holds of it. -/
theorem top_of_mem (h : Linked stack) {states : List State} (mem : stateOf stack ∈ states)
    (P : State → Kind → Prop)
    (all : ∀ state ∈ states, state ≠ .beforeStatement ∧ ∀ point ∈ arrivals state,
      ∀ below ∈ point.1, ∀ kind ∈ point.2, P below kind) :
    ∃ state symbol rest, state ∈ states ∧ stack = ⟨state, symbol⟩ :: rest ∧
      P (stateOf rest) symbol.kind ∧ Fits (stateOf rest) symbol ∧ Linked rest := by
  obtain ⟨later, all⟩ := all _ mem
  cases h with
  | nil => exact absurd rfl later
  | @cons entry rest shift fits linked =>
    exact ⟨entry.state, entry.symbol, rest, mem, rfl, (action?_eq_some_iff.1 shift).imp P all,
      fits, linked⟩

theorem top (h : Linked stack) {state : State} (eq : stateOf stack = state)
    (P : State → Kind → Prop)
    (all : state ≠ .beforeStatement ∧ ∀ point ∈ arrivals state, ∀ below ∈ point.1,
      ∀ kind ∈ point.2, P below kind) :
    ∃ symbol rest, stack = ⟨state, symbol⟩ :: rest ∧ P (stateOf rest) symbol.kind ∧
      Fits (stateOf rest) symbol ∧ Linked rest := by
  obtain ⟨state', symbol, rest, mem, rfl, arrived⟩ :=
    h.top_of_mem (List.mem_singleton.2 eq) P fun _ mem => List.mem_singleton.1 mem ▸ all
  rw [List.mem_singleton.1 mem]
  exact ⟨symbol, rest, rfl, arrived⟩

/-- A state that is reached in one way only: what was below, and what was put there. -/
theorem top_of_single (h : Linked stack) {state below : State} {kind : Kind}
    (eq : stateOf stack = state) (single : arrivals state = [([below], [kind])])
    (later : state ≠ .beforeStatement) :
    ∃ symbol rest, stack = ⟨state, symbol⟩ :: rest ∧ stateOf rest = below ∧
      symbol.Shaped kind ∧ Fits below symbol ∧ Linked rest := by
  obtain ⟨symbol, rest, rfl, ⟨under, kind⟩, fits, linked⟩ :=
    h.top eq (fun state kind' => state = below ∧ kind' = kind) ⟨later, by simp [single]⟩
  exact ⟨symbol, rest, rfl, under, Symbol.shaped_of kind, under ▸ fits, linked⟩

end Linked

/-- Where no operand and no test is to come, a name is a token. -/
theorem exists_identifier {below : State} {symbol : Symbol} (shape : symbol.Shaped .identifier)
    (fits : Fits below symbol) (outside : below ∉ .afterIfKeyword :: operandStates) :
    ∃ name, symbol = .token (.identifier name) := by
  obtain ⟨name, operand⟩ := shape
  cases operand with
  | name => exact ⟨name, rfl⟩
  | node => exact absurd (fits.incomplete _ rfl) outside

end NumScript.Automaton
