import Mathlib.Data.List.TakeWhile
import NumScript.Proofs.Automaton.Path

/-!
# What a reduction finds on the stack

A reduction trusts that the stack has the shape it takes apart. `Handle` writes this shape down for
each reduction: the entries that are taken, with their states and symbols, the node that is built of
them, and the state under them. On a linked stack the shape is always there where the table calls
for the reduction (`exists_handle`), apart from two mistakes of the script that the table does not
see (`Misfit`): a `}` for which there is no `{`, and a call of something that is no name.

A reduction that finds its handle can fail only at the tokens that it takes from the input itself
(`Reduction.absorbed`, `Handle.closes`).
-/

namespace NumScript.Automaton

/-! ## 1. Rows of entries -/

section Lists

variable {α : Type}

/-- How a list with commas lies on the stack: the state before a member and the state after it, and
    the symbol of a member. -/
structure ListShape (α : Type) where
  /-- The state after the opening bracket and after a comma. -/
  before : State
  /-- The state after a member. -/
  after : State
  /-- The symbol of a member. -/
  item : α → Symbol

/-- The arguments of a call. -/
def argumentList : ListShape Expression :=
  ⟨.beforeArgument, .afterArgument, fun value => .node (.expression value true)⟩

/-- The parameters of a function. -/
def paramList : ListShape String :=
  ⟨.beforeParam, .afterParam, fun name => .token (.identifier name)⟩

/-- The members of an export. -/
def specifierList : ListShape ExportSpecifier :=
  ⟨.beforeLocalName, .afterExportSpecifier, fun specifier => .node (.exportSpecifier specifier)⟩

/-- What lies above the bracket that opens a list, and its members in order. The first index says
    whether a member can follow. -/
inductive Listed (shape : ListShape α) : Bool → List Entry → List α → Prop
  | nil : Listed shape true [] []
  | item {above : List Entry} {values : List α} (value : α) (list : Listed shape true above values) :
      Listed shape false (⟨shape.after, shape.item value⟩ :: above) (values ++ [value])
  | comma {above : List Entry} {values : List α} (list : Listed shape false above values) :
      Listed shape true (⟨shape.before, .token (.mark .comma)⟩ :: above) values

end Lists

/-- The entries of statements that stand one after the other. -/
def statementEntries (body : List Statement) : List Entry :=
  body.reverse.map fun statement => ⟨.beforeStatement, .node (.statement statement)⟩

/-- The entries of a sum that is not complete yet. -/
inductive Chain : List Entry → Expression → Prop
  | first {state : State} {symbol : Symbol} {value : Expression} (after : state ∈ summandStates)
      (operand : Operand symbol value) : Chain [⟨state, symbol⟩] value
  | next {above : List Entry} {left right : Expression} {op : BinaryOperator} {symbol : Symbol}
      (chain : Chain above left) (additive : op.operatorClass = .additive)
      (operand : Operand symbol right) :
      Chain (⟨.afterAdditiveOperand, symbol⟩ :: ⟨.afterAdditiveOperator, .token (.operator op)⟩ ::
        above) (.binary op left right)

/-! ## 2. Handles -/

/-- `Handle reduction incoming stack node rest`: the top of `stack` has the shape that `reduction`
    takes apart, `node` is what it builds, and `rest` is what it leaves. -/
inductive Handle : Reduction → Option Node → List Entry → Node → List Entry → Prop
  | term {leftSymbol rightSymbol : Symbol} {left right : Expression} {op : BinaryOperator}
      {state : State} {rest : List Entry} (onLeft : Operand leftSymbol left)
      (multiplicative : op.operatorClass = .multiplicative) (onRight : Operand rightSymbol right)
      (after : state ∈ summandStates) (under : stateOf rest ∈ additiveStates) :
      Handle .term none
        (⟨.afterMultiplicativeOperand, rightSymbol⟩ ::
          ⟨.afterMultiplicativeOperator, .token (.operator op)⟩ :: ⟨state, leftSymbol⟩ :: rest)
        (.expression (.binary op left right) false) rest
  | fullExpression {chain rest : List Entry} {value : Expression} (sum : Chain chain value)
      (under : stateOf rest ∈ expressionStates) :
      Handle .fullExpression none (chain ++ rest) (.expression value true) rest
  | parenthesized {value : Expression} {rest : List Entry}
      (operand : expressionKind value ∈ operandKinds) (under : stateOf rest ∈ operandStates) :
      Handle .parenthesized (some (.expression value true))
        (⟨.beforeOperand, .token (.mark .leftParen)⟩ :: rest) (.expression value false) rest
  | unaryExpression {symbol : Symbol} {operand : Expression} {op : BinaryOperator}
      {rest : List Entry} (on : Operand symbol operand) (additive : op.operatorClass = .additive)
      (under : stateOf rest ∈ operandStates) :
      Handle .unaryExpression none
        (⟨.afterUnaryOperand, symbol⟩ :: ⟨.afterUnaryOperator, .token (.operator op)⟩ :: rest)
        (.expression (.unary (if op = .subtract then .negate else .plus) operand) false) rest
  | callExpression {more : Bool} {above : List Entry} {arguments : List Expression}
      {symbol : Symbol} {callee : String} {state : State} {rest : List Entry}
      (list : Listed argumentList more above arguments) (named : Operand symbol (.var callee))
      (after : state ∈ calleeStates) (under : stateOf rest ∈ operandStates) :
      Handle .callExpression none
        (above ++ ⟨.beforeArgument, .token (.mark .leftParen)⟩ :: ⟨state, symbol⟩ :: rest)
        (.expression (.call callee arguments) false) rest
  | assignmentExpression {value : Expression} {symbol : Symbol} {target : String}
      {rest : List Entry} (named : Operand symbol (.var target))
      (under : stateOf rest = .beforeStatement) :
      Handle .assignmentExpression (some (.expression value true))
        (⟨.beforeAssignmentRight, .token (.mark .assign)⟩ :: ⟨.afterIdentifier, symbol⟩ :: rest)
        (.expression (.assign target value) false) rest
  | expressionStatement {value : Expression} {complete : Bool} {rest : List Entry}
      (under : stateOf rest = .beforeStatement) :
      Handle .expressionStatement none
        (⟨.afterExpression, .node (.expression value complete)⟩ :: rest)
        (.statement (.expression value)) rest
  | variableDeclaration {name : String} {rest : List Entry}
      (under : stateOf rest = .beforeStatement) :
      Handle .variableDeclaration none
        (⟨.afterVariableName, .token (.identifier name)⟩ ::
          ⟨.afterVariableKeyword, .token (.keyword .varKeyword)⟩ :: rest)
        (.statement (.variableDeclaration name none)) rest
  | initialized {name : String} {value : Expression} {rest : List Entry}
      (under : stateOf rest = .beforeStatement) :
      Handle .variableDeclaration (some (.expression value true))
        (⟨.beforeInit, .token (.mark .assign)⟩ ::
          ⟨.afterVariableName, .token (.identifier name)⟩ ::
          ⟨.afterVariableKeyword, .token (.keyword .varKeyword)⟩ :: rest)
        (.statement (.variableDeclaration name (some value))) rest
  | params {more : Bool} {above : List Entry} {names : List String} {rest : List Entry}
      (list : Listed paramList more above names) (under : stateOf rest = .afterFunctionName) :
      Handle .params none (above ++ ⟨.beforeParam, .token (.mark .leftParen)⟩ :: rest)
        (.params names) rest
  | functionDeclaration {name : String} {params : List String} {body : List Statement}
      {rest : List Entry} (under : stateOf rest ∈ [.beforeStatement, .afterExportKeyword]) :
      Handle .functionDeclaration (some (.block body))
        (⟨.beforeBody, .node (.params params)⟩ :: ⟨.afterFunctionName, .token (.identifier name)⟩ ::
          ⟨.afterFunctionKeyword, .token (.keyword .function)⟩ :: rest)
        (.statement (.function name params body)) rest
  | test {leftToken rightToken : Token} {left right : Expression} {op : BinaryOperator}
      {rest : List Entry} (onLeft : Operand (.token leftToken) left)
      (relational : op.operatorClass = .relational) (onRight : Operand (.token rightToken) right)
      (under : stateOf rest = .afterIfKeyword) :
      Handle .test none
        (⟨.afterComparison, .token rightToken⟩ ::
          ⟨.afterRelationalOperator, .token (.operator op)⟩ ::
          ⟨.afterTestOperand, .token leftToken⟩ ::
          ⟨.beforeTestOperand, .token (.mark .leftParen)⟩ :: rest)
        (.expression (.binary op left right) false) rest
  | ifStatement {test : Expression} {consequent alternate : List Statement} {rest : List Entry}
      (under : stateOf rest = .beforeStatement) :
      Handle .ifStatement (some (.block alternate))
        (⟨.beforeAlternate, .token (.keyword .elseKeyword)⟩ ::
          ⟨.afterConsequent, .node (.block consequent)⟩ ::
          ⟨.beforeConsequent, .node (.expression test false)⟩ ::
          ⟨.afterIfKeyword, .token (.keyword .ifKeyword)⟩ :: rest)
        (.statement (.ifElse test consequent alternate)) rest
  | returnStatement {value : Expression} {rest : List Entry}
      (under : stateOf rest = .beforeStatement) :
      Handle .returnStatement (some (.expression value true))
        (⟨.afterReturnKeyword, .token (.keyword .returnKeyword)⟩ :: rest)
        (.statement (.returnValue value)) rest
  | block {body : List Statement} {rest : List Entry}
      (under : stateOf rest ∈ [.beforeBody, .beforeConsequent, .beforeAlternate]) :
      Handle .block none
        (statementEntries body ++ ⟨.beforeStatement, .token (.mark .leftBrace)⟩ :: rest)
        (.block body) rest
  | exportSpecifier {name : String} {rest : List Entry} (under : stateOf rest = .beforeLocalName) :
      Handle .exportSpecifier none (⟨.afterLocalName, .token (.identifier name)⟩ :: rest)
        (.exportSpecifier ⟨name, name⟩) rest
  | renamed {localName exportedName : String} {rest : List Entry}
      (under : stateOf rest = .beforeLocalName) :
      Handle .exportSpecifier none
        (⟨.afterExportedName, .token (.identifier exportedName)⟩ ::
          ⟨.beforeExportedName, .token (.keyword .asKeyword)⟩ ::
          ⟨.afterLocalName, .token (.identifier localName)⟩ :: rest)
        (.exportSpecifier ⟨localName, exportedName⟩) rest
  | exportSpecifiers {more : Bool} {above : List Entry} {specifiers : List ExportSpecifier}
      {rest : List Entry} (list : Listed specifierList more above specifiers)
      (under : stateOf rest = .afterExportKeyword) :
      Handle .exportSpecifiers none
        (above ++ ⟨.beforeLocalName, .token (.mark .leftBrace)⟩ :: rest)
        (.exportSpecifiers specifiers) rest
  | exportFunction {name : String} {params : List String} {body : List Statement}
      {rest : List Entry} (under : stateOf rest = .beforeStatement) :
      Handle .exportDeclaration (some (.statement (.function name params body)))
        (⟨.afterExportKeyword, .token (.keyword .exportKeyword)⟩ :: rest)
        (.statement (.exportFunction name params body)) rest
  | exportList {specifiers : List ExportSpecifier} {rest : List Entry}
      (under : stateOf rest = .beforeStatement) :
      Handle .exportDeclaration (some (.exportSpecifiers specifiers))
        (⟨.afterExportKeyword, .token (.keyword .exportKeyword)⟩ :: rest)
        (.statement (.exportSpecifiers specifiers)) rest

/-- A stack on which a reduction does not find its handle, and the error it reports. -/
inductive Misfit : Reduction → List Entry → ParseError → Prop
  | unopened (body : List Statement) :
      Misfit .block (statementEntries body) (.unexpected .beforeStatement (.mark .rightBrace))
  | uncallable {more : Bool} {above : List Entry} {arguments : List Expression} {symbol : Symbol}
      {value : Expression} {state : State} {rest : List Entry}
      (list : Listed argumentList more above arguments) (operand : Operand symbol value)
      (unnamed : ∀ name, value ≠ .var name) :
      Misfit .callExpression
        (above ++ ⟨.beforeArgument, .token (.mark .leftParen)⟩ :: ⟨state, symbol⟩ :: rest)
        (.unexpected (stateOf rest) (expressionKind value))

/-! ## 3. Moves that only take from the stack -/

/-- A move that succeeds on this stack whatever the input is, and leaves the input alone. -/
def Takes {α : Type} (move : Move α) (stack : List Entry) (value : α) (rest : List Entry) : Prop :=
  ∀ input, move ⟨stack, input⟩ = .ok (value, ⟨rest, input⟩)

section Taking

variable {α β : Type} {stack between rest : List Entry} {state : State} {symbol : Symbol}

theorem takes_pure (value : α) : Takes (pure value) stack value stack := fun _ => rfl

theorem Takes.bind {move : Move α} {next : α → Move β} {value : α} {result : β}
    (first : Takes move stack value between) (second : Takes (next value) between result rest) :
    Takes (move >>= next) stack result rest := by
  intro input
  show (move ⟨stack, input⟩ >>= fun after => next after.1 after.2) = _
  rw [first input]
  exact second input

theorem takes_pop : Takes Move.pop (⟨state, symbol⟩ :: rest) symbol rest := fun _ => rfl

theorem takes_popAs {read : Symbol → Option α} {value : α} (h : read symbol = some value) :
    Takes (Move.popAs read) (⟨state, symbol⟩ :: rest) value rest := by
  refine takes_pop.bind ?_
  simp only [h]
  exact takes_pure value

theorem popAs_eq_error {read : Symbol → Option α} {input : Scan} (h : read symbol = none) :
    Move.popAs read ⟨⟨state, symbol⟩ :: rest, input⟩ =
      .error (.unexpected (stateOf rest) symbol.kind) := by
  have popped : Move.pop ⟨⟨state, symbol⟩ :: rest, input⟩ = .ok (symbol, ⟨rest, input⟩) :=
    takes_pop input
  unfold Move.popAs
  simp only [bind, StateT.bind, popped, Except.bind, h]
  show Except.error (ParseError.unexpected _ _) = _
  rw [Config.state_eq]

theorem takes_popToken (token : Token) :
    Takes (Move.popToken (tokenKind token)) (⟨state, .token token⟩ :: rest) () rest :=
  takes_popAs (by simp [Symbol.isTokenOf])

theorem takes_popName {name : String} (h : Operand symbol (.var name)) :
    Takes Move.popName (⟨state, symbol⟩ :: rest) name rest :=
  takes_popAs h.name?

theorem takes_popExpression {value : Expression} (h : Operand symbol value) :
    Takes Move.popExpression (⟨state, symbol⟩ :: rest) value rest :=
  takes_popAs h.expression?

theorem takes_popOperator {op : BinaryOperator} {wanted : OperatorClass}
    (h : op.operatorClass = wanted) :
    Takes (Move.popOperator wanted) (⟨state, .token (.operator op)⟩ :: rest) op rest :=
  takes_popAs (if_pos h)

/-- What lies above the nearest opening bracket, and the bracket. -/
theorem takes_popUntil {above : List Entry} {closing : Kind} (opening : Token)
    (inside : ∀ entry ∈ above, entry.symbol.isTokenOf (tokenKind opening) = false) :
    Takes (Move.popUntil (tokenKind opening) closing) (above ++ ⟨state, .token opening⟩ :: rest)
      (above.map Entry.symbol).reverse rest := by
  intro input
  have inside' : ∀ entry ∈ above, (!entry.symbol.isTokenOf (tokenKind opening)) = true := by
    intro entry mem
    rw [inside entry mem]
    rfl
  have found : (!(Symbol.token opening).isTokenOf (tokenKind opening)) = false := by
    simp [Symbol.isTokenOf]
  unfold Move.popUntil
  simp only [List.dropWhile_append_of_pos inside', List.takeWhile_append_of_pos inside',
    List.dropWhile_cons, List.takeWhile_cons, found]
  simp

theorem readAll_eq {read : Symbol → Option (Option α)} {symbols : List Symbol}
    (h : ∀ symbol ∈ symbols, (read symbol).isSome) :
    Move.readAll read symbols = pure (symbols.filterMap fun symbol => (read symbol).join) := by
  induction symbols with
  | nil => rfl
  | cons symbol rest ih =>
    have ih := ih fun symbol mem => h symbol (List.mem_cons_of_mem _ mem)
    obtain ⟨found, eq⟩ := Option.isSome_iff_exists.1 (h symbol (List.mem_cons_self ..))
    unfold Move.readAll
    cases found with
    | none =>
      simp only [eq, List.filterMap_cons, Option.join_some]
      exact ih
    | some value =>
      simp only [eq, List.filterMap_cons, Option.join_some, ih]
      rfl

end Taking

/-! ## 4. Rows of entries are read back -/

namespace Listed

variable {α : Type} {shape : ListShape α} {more : Bool} {above : List Entry} {values : List α}

/-- The members of a list, read by a function that knows members and commas. -/
theorem reads {read : Symbol → Option (Option α)} (list : Listed shape more above values)
    (item : ∀ value, read (shape.item value) = some (some value))
    (comma : read (.token (.mark .comma)) = some none) :
    Move.readAll read (above.map Entry.symbol).reverse = pure values := by
  have known : ∀ symbol ∈ (above.map Entry.symbol).reverse, (read symbol).isSome := by
    intro symbol mem
    rw [List.mem_reverse] at mem
    induction list with
    | nil => cases mem
    | item value list ih =>
      rcases List.mem_cons.1 mem with rfl | mem
      · rw [item]
        rfl
      · exact ih mem
    | comma list ih =>
      rcases List.mem_cons.1 mem with rfl | mem
      · rw [comma]
        rfl
      · exact ih mem
  have same : (above.map Entry.symbol).reverse.filterMap (fun symbol => (read symbol).join) =
      values := by
    clear known
    induction list with
    | nil => rfl
    | item value list ih => simp [ih, item]
    | comma list ih => simp [ih, comma]
  rw [readAll_eq known, same]

/-- No bracket lies among the members of a list. -/
theorem isTokenOf_eq_false {opening : Mark} (list : Listed shape more above values)
    (item : ∀ value, (shape.item value).isTokenOf (.mark opening) = false)
    (comma : opening ≠ .comma) : ∀ entry ∈ above, entry.symbol.isTokenOf (.mark opening) = false := by
  induction list with
  | nil =>
    intro entry mem
    cases mem
  | item value list ih =>
    intro entry mem
    rcases List.mem_cons.1 mem with rfl | mem
    · exact item value
    · exact ih entry mem
  | comma list ih =>
    intro entry mem
    rcases List.mem_cons.1 mem with rfl | mem
    · simp [Symbol.isTokenOf, tokenKind, comma.symm]
    · exact ih entry mem

/-- The state above the bracket: one in which a member can follow, or one after a member. -/
theorem stateOf_append (list : Listed shape more above values) (bracket : Symbol)
    (rest : List Entry) : stateOf (above ++ ⟨shape.before, bracket⟩ :: rest) =
      if more then shape.before else shape.after := by
  cases list <;> rfl

/-- What both states of a list have an entry for is looked up above its bracket. -/
theorem action?_append {kind : Kind} {action : Action} (list : Listed shape more above values)
    (bracket : Symbol) (rest : List Entry) (before : action? shape.before kind = some action)
    (after : action? shape.after kind = some action) :
    action? (stateOf (above ++ ⟨shape.before, bracket⟩ :: rest)) kind = some action := by
  rw [list.stateOf_append]
  cases more with
  | true => exact before
  | false => exact after

end Listed

theorem statementEntries_concat (body : List Statement) (statement : Statement) :
    statementEntries (body ++ [statement]) =
      ⟨.beforeStatement, .node (.statement statement)⟩ :: statementEntries body := by
  simp [statementEntries]

theorem stateOf_statementEntries (body : List Statement) (symbol : Symbol) (rest : List Entry) :
    stateOf (statementEntries body ++ ⟨.beforeStatement, symbol⟩ :: rest) = .beforeStatement := by
  unfold statementEntries
  cases body.reverse <;> rfl

theorem isTokenOf_statementEntries (kind : Kind) (body : List Statement) :
    ∀ entry ∈ statementEntries body, entry.symbol.isTokenOf kind = false := by
  intro entry mem
  obtain ⟨statement, -, rfl⟩ := List.mem_map.1 mem
  rfl

theorem readAll_statementEntries (body : List Statement) :
    Move.readAll readStatement ((statementEntries body).map Entry.symbol).reverse = pure body := by
  have symbols : ((statementEntries body).map Entry.symbol).reverse =
      body.map fun statement => .node (.statement statement) := by
    simp [statementEntries, Function.comp_def]
  rw [symbols, readAll_eq (by simp [readStatement]), List.filterMap_map]
  exact congrArg pure List.filterMap_some

/-- Operators and operands in turn, joined from left to right. -/
inductive Joins : Expression → List Symbol → Expression → Prop
  | nil (value : Expression) : Joins value [] value
  | cons {left right value : Expression} {op : BinaryOperator} {symbol : Symbol}
      {rest : List Symbol} (additive : op.operatorClass = .additive) (operand : Operand symbol right)
      (joins : Joins (.binary op left right) rest value) :
      Joins left (.token (.operator op) :: symbol :: rest) value

theorem Joins.concat {left right value : Expression} {symbols : List Symbol} {op : BinaryOperator}
    {symbol : Symbol} (joins : Joins left symbols value) (additive : op.operatorClass = .additive)
    (operand : Operand symbol right) :
    Joins left (symbols ++ [.token (.operator op), symbol]) (.binary op value right) := by
  induction joins with
  | nil value => exact .cons additive operand (.nil _)
  | cons additive' operand' joins ih => exact .cons additive' operand' ih

theorem Operand.asExpression {symbol : Symbol} {value : Expression} (h : Operand symbol value) :
    Automaton.asExpression symbol = pure value := by
  unfold Automaton.asExpression
  rw [h.expression?]

theorem Joins.joinChain {left value : Expression} {symbols : List Symbol}
    (joins : Joins left symbols value) : Automaton.joinChain left symbols = pure value := by
  induction joins with
  | nil value => rfl
  | cons additive operand joins ih =>
    unfold Automaton.joinChain
    simp only [asAdditive, additive, if_true, operand.asExpression, pure_bind, ih]

namespace Chain

variable {chain : List Entry} {value : Expression}

theorem isChainElement (sum : Chain chain value) :
    ∀ entry ∈ chain, entry.symbol.isChainElement = true := by
  induction sum with
  | first after operand =>
    intro entry mem
    rw [List.mem_singleton.1 mem]
    exact operand.isChainElement
  | next sum additive operand ih =>
    intro entry mem
    rcases List.mem_cons.1 mem with rfl | mem
    · exact operand.isChainElement
    · rcases List.mem_cons.1 mem with rfl | mem
      · simp [Symbol.isChainElement, additive]
      · exact ih entry mem

theorem joins (sum : Chain chain value) : ∃ symbol left rest,
    (chain.map Entry.symbol).reverse = symbol :: rest ∧ Operand symbol left ∧
      Joins left rest value := by
  induction sum with
  | first after operand => exact ⟨_, _, [], rfl, operand, .nil _⟩
  | next sum additive operand ih =>
    obtain ⟨symbol, left, rest, eq, first, joins⟩ := ih
    refine ⟨symbol, left, _, ?_, first, joins.concat additive operand⟩
    simp only [List.map_cons, List.reverse_cons, eq, List.append_assoc, List.cons_append,
      List.nil_append]

theorem expressionKind_mem (sum : Chain chain value) : expressionKind value ∈ operandKinds := by
  cases sum with
  | first after operand => exact operand.expressionKind_mem
  | next sum additive operand => exact (by decide : Kind.binaryExpression ∈ operandKinds)

theorem stateOf_mem (sum : Chain chain value) (rest : List Entry) :
    stateOf (chain ++ rest) ∈ summandStates := by
  cases sum with
  | first after operand => exact after
  | next sum additive operand => exact (by decide : State.afterAdditiveOperand ∈ summandStates)

/-- A sum is taken as a whole when nothing under it belongs to it. -/
theorem takes {rest : List Entry} (sum : Chain chain value)
    (ended : ∀ entry ∈ rest.head?, entry.symbol.isChainElement = false) :
    Takes reduceFullExpression (chain ++ rest) (.expression value true) rest := by
  have above := sum.isChainElement
  obtain ⟨symbol, left, symbols, eq, first, joins⟩ := sum.joins
  have dropped : rest.dropWhile (fun entry => entry.symbol.isChainElement) = rest := by
    cases rest with
    | nil => rfl
    | cons entry rest => rw [List.dropWhile_cons_of_neg (by simp [ended entry rfl])]
  have taken : rest.takeWhile (fun entry => entry.symbol.isChainElement) = [] := by
    cases rest with
    | nil => rfl
    | cons entry rest => rw [List.takeWhile_cons_of_neg (by simp [ended entry rfl])]
  have popped : Takes Move.popChain (chain ++ rest) (symbol :: symbols) rest := by
    intro input
    unfold Move.popChain
    simp only [List.takeWhile_append_of_pos above, List.dropWhile_append_of_pos above, dropped,
      taken, List.append_nil, eq]
  refine popped.bind ?_
  simp only [first.asExpression, joins.joinChain, pure_bind]
  exact takes_pure _

end Chain

/-! ## 5. What a reduction does -/

/-- The kinds of the tokens that a reduction takes from the input. -/
def Reduction.absorbed : Reduction → List Kind
  | .parenthesized | .callExpression | .params | .test => [.mark .rightParen]
  | .expressionStatement | .variableDeclaration | .returnStatement => [.mark .semicolon]
  | .block => [.mark .rightBrace]
  | .exportSpecifiers => [.mark .rightBrace, .mark .semicolon]
  | _ => []

/-- Takes tokens of these kinds. -/
def absorb : List Kind → Move Unit
  | [] => pure ()
  | kind :: rest => do
    let _ ← Move.expect kind
    absorb rest

/-- A move that first takes tokens of these kinds, and then does on the stack what `outcome` says. -/
def Closes (kinds : List Kind) (move : Move Node) (stack : List Entry)
    (outcome : Except ParseError (Node × List Entry)) : Prop :=
  ∀ input, move ⟨stack, input⟩ = do
    let after ← absorb kinds ⟨stack, input⟩
    let built ← outcome
    pure (built.1, ⟨built.2, after.2.input⟩)

theorem advance_cons {stack : List Entry} {token : Token} {tokens : List Token}
    {stop : Option ScanError} (readable : tokens = [] → stop = none) :
    Move.advance ⟨stack, ⟨token :: tokens, stop⟩⟩ = .ok (token, ⟨stack, ⟨tokens, stop⟩⟩) := by
  cases tokens with
  | nil => rw [readable rfl]; rfl
  | cons next rest => rfl

theorem advance_eq_ok {config after : Config} {token : Token}
    (h : Move.advance config = .ok (token, after)) :
    (after.input.tokens = [] → after.input.stop = none) ∧
      config = ⟨after.stack, ⟨token :: after.input.tokens, after.input.stop⟩⟩ := by
  obtain ⟨stack, ⟨tokens, stop⟩⟩ := config
  cases tokens with
  | nil => cases h
  | cons first rest =>
    cases rest with
    | nil =>
      cases stop with
      | none =>
        cases h
        exact ⟨fun _ => rfl, rfl⟩
      | some error => cases h
    | cons second rest =>
      cases h
      exact ⟨fun last => (nomatch last), rfl⟩

theorem expect_cons {kind : Kind} {stack : List Entry} {token : Token} {tokens : List Token}
    {stop : Option ScanError} (same : tokenKind token = kind) :
    Move.expect kind ⟨stack, ⟨token :: tokens, stop⟩⟩ =
      Move.advance ⟨stack, ⟨token :: tokens, stop⟩⟩ := if_pos same

theorem expect_eq_ok {kind : Kind} {config after : Config} {token : Token}
    (h : Move.expect kind config = .ok (token, after)) :
    tokenKind token = kind ∧ Move.advance config = .ok (token, after) := by
  unfold Move.expect at h
  split at h
  · cases h
  · rename_i first rest tokens
    split at h
    · rename_i same
      have advanced := (advance_eq_ok h).2
      rw [advanced] at tokens
      cases tokens
      exact ⟨same, h⟩
    · cases h

theorem Takes.closes {move : Move Node} {stack rest : List Entry} {node : Node}
    (h : Takes move stack node rest) : Closes [] move stack (.ok (node, rest)) := h

theorem Closes.expect {kind : Kind} {kinds : List Kind} {move : Move Node} {stack : List Entry}
    {outcome : Except ParseError (Node × List Entry)} (h : Closes kinds move stack outcome) :
    Closes (kind :: kinds) (Move.expect kind >>= fun _ => move) stack outcome := by
  intro input
  show (Move.expect kind ⟨stack, input⟩ >>= fun after => move after.2) =
    (Move.expect kind ⟨stack, input⟩ >>= fun after => absorb kinds after.2) >>= _
  cases eq : Move.expect kind ⟨stack, input⟩ with
  | error error => rfl
  | ok after =>
    obtain ⟨token, ⟨stack', input'⟩⟩ := after
    obtain ⟨-, same⟩ := advance_eq_ok (expect_eq_ok eq).2
    obtain rfl : stack = stack' := congrArg Config.stack same
    exact h input'

/-- Nothing under an expression that is to come belongs to a sum. -/
theorem Linked.not_isChainElement {rest : List Entry} (h : Linked rest)
    (under : stateOf rest ∈ expressionStates) :
    ∀ entry ∈ rest.head?, entry.symbol.isChainElement = false := by
  intro entry mem
  cases h with
  | nil => cases mem
  | @cons top below shift fits linked =>
    obtain rfl : top = entry := by simpa using mem
    have kinds : ∀ state ∈ expressionStates, ∀ point ∈ arrivals state, ∀ below ∈ point.1,
        ∀ kind ∈ point.2, kind ∈ statementKinds ∨ kind = .mark .leftBrace ∨
          kind = .mark .leftParen ∨ kind = .mark .comma ∨ kind = .mark .assign ∨
          kind = .keyword .returnKeyword := by decide
    rcases (action?_eq_some_iff.1 shift).imp _ (kinds _ under) with h | h | h | h | h | h
    · obtain ⟨statement, eq⟩ := Symbol.exists_statement h
      rw [eq]
      rfl
    all_goals rw [show top.symbol = _ from Symbol.shaped_of h]; rfl

/-- No `as` lies under a member of an export. -/
theorem Linked.not_isTokenOf_as {rest : List Entry} (h : Linked rest)
    (under : stateOf rest = .beforeLocalName) :
    ∀ entry ∈ rest.head?, entry.symbol.isTokenOf (.keyword .asKeyword) = false := by
  intro entry mem
  obtain ⟨symbol, below, rfl, arrived, -, -⟩ := h.top under
    (fun _ kind => kind = .mark .leftBrace ∨ kind = .mark .comma) (by decide)
  obtain rfl : _ = entry := by simpa using mem
  rcases arrived with h | h
  all_goals rw [show symbol = _ from Symbol.shaped_of h]; rfl

/-- The members of a list are taken down to its bracket, and then comes what is next. -/
theorem Listed.run {α β : Type} {shape : ListShape α} {more : Bool} {above rest : List Entry}
    {values : List α} {state : State} {opening : Mark} {closing : Kind}
    {read : Symbol → Option (Option α)} {next : List α → Move β}
    (list : Listed shape more above values)
    (item : ∀ value, read (shape.item value) = some (some value) ∧
      (shape.item value).isTokenOf (.mark opening) = false)
    (comma : read (.token (.mark .comma)) = some none ∧ opening ≠ .comma) (input : Scan) :
    (do
      let symbols ← Move.popUntil (.mark opening) closing
      let values ← Move.readAll read symbols
      next values : Move β) ⟨above ++ ⟨state, .token (.mark opening)⟩ :: rest, input⟩ =
      next values ⟨rest, input⟩ := by
  have inside := list.isTokenOf_eq_false (fun value => (item value).2) comma.2
  have popped : Move.popUntil (.mark opening) closing
      ⟨above ++ ⟨state, .token (.mark opening)⟩ :: rest, input⟩ =
        .ok ((above.map Entry.symbol).reverse, ⟨rest, input⟩) :=
    takes_popUntil (.mark opening) inside input
  show (Move.popUntil (.mark opening) closing _ >>= _) = _
  rw [popped]
  show (Move.readAll read (above.map Entry.symbol).reverse >>= next) _ = _
  rw [list.reads (fun value => (item value).1) comma.1, pure_bind]

theorem takes_topIsToken {kind : Kind} {stack : List Entry}
    (h : ∀ entry ∈ stack.head?, entry.symbol.isTokenOf kind = false) :
    Takes (topIsToken kind) stack false stack := by
  intro input
  cases stack with
  | nil => rfl
  | cons entry rest =>
    show Except.ok (entry.symbol.isTokenOf kind, _) = _
    rw [h entry rfl]

theorem takes_topIsToken_as {state : State} {rest : List Entry} :
    Takes (topIsToken (.keyword .asKeyword)) (⟨state, .token (.keyword .asKeyword)⟩ :: rest) true
      (⟨state, .token (.keyword .asKeyword)⟩ :: rest) := fun _ => rfl

/-- **A reduction that finds its handle fails only at the tokens it takes.** -/
theorem Handle.closes {reduction : Reduction} {incoming : Option Node} {stack rest : List Entry}
    {node : Node} (h : Handle reduction incoming stack node rest) (linked : Linked rest) :
    Closes reduction.absorbed (reduction.build incoming) stack (.ok (node, rest)) := by
  cases h with
  | term onLeft multiplicative onRight after under =>
    exact Takes.closes <| .bind (takes_popExpression onRight) <|
      .bind (takes_popOperator multiplicative) <| .bind (takes_popExpression onLeft) (takes_pure _)
  | fullExpression sum under => exact (sum.takes (linked.not_isChainElement under)).closes
  | parenthesized operand under =>
    exact .expect <| Takes.closes <| .bind (takes_popToken (.mark .leftParen)) (takes_pure _)
  | unaryExpression on additive under =>
    exact Takes.closes <| .bind (takes_popExpression on) <| .bind (takes_popOperator additive)
      (takes_pure _)
  | callExpression list named after under =>
    refine .expect <| Takes.closes fun input =>
      (list.run (fun _ => ⟨rfl, rfl⟩) ⟨rfl, by decide⟩ input).trans ?_
    refine Takes.bind (takes_popName named) ?_ input
    exact takes_pure _
  | assignmentExpression named under =>
    exact Takes.closes <| .bind (takes_pure _) <| .bind (takes_popToken (.mark .assign)) <|
      .bind (takes_popName named) (takes_pure _)
  | expressionStatement under =>
    exact .expect <| Takes.closes <| .bind (takes_popAs rfl) (takes_pure _)
  | variableDeclaration under =>
    exact .expect <| Takes.closes <| .bind (takes_popName (.name _)) <|
      .bind (takes_popToken (.keyword .varKeyword)) (takes_pure _)
  | initialized under =>
    exact .expect <| Takes.closes <| .bind (takes_popToken (.mark .assign)) <|
      .bind (takes_popName (.name _)) <| .bind (takes_popToken (.keyword .varKeyword)) (takes_pure _)
  | params list under =>
    exact .expect <| Takes.closes fun input =>
      list.run (fun _ => ⟨rfl, rfl⟩) ⟨rfl, by decide⟩ input
  | functionDeclaration under =>
    exact Takes.closes <| .bind (takes_pure _) <| .bind (takes_popAs rfl) <|
      .bind (takes_popName (.name _)) <| .bind (takes_popToken (.keyword .function)) (takes_pure _)
  | test onLeft relational onRight under =>
    exact .expect <| Takes.closes <| .bind (takes_popExpression onRight) <|
      .bind (takes_popOperator relational) <| .bind (takes_popExpression onLeft) <|
      .bind (takes_popToken (.mark .leftParen)) (takes_pure _)
  | ifStatement under =>
    exact Takes.closes <| .bind (takes_pure _) <| .bind (takes_popToken (.keyword .elseKeyword)) <|
      .bind (takes_popAs rfl) <| .bind (takes_popAs rfl) <|
      .bind (takes_popToken (.keyword .ifKeyword)) (takes_pure _)
  | returnStatement under =>
    exact .expect <| Takes.closes <| .bind (takes_popToken (.keyword .returnKeyword)) (takes_pure _)
  | @block body rest under =>
    refine .expect <| Takes.closes <| .bind (takes_popUntil (.mark .leftBrace)
      (isTokenOf_statementEntries _ body)) ?_
    rw [readAll_statementEntries]
    exact takes_pure _
  | exportSpecifier under =>
    exact Takes.closes <| .bind (takes_popName (.name _)) <|
      .bind (takes_topIsToken (linked.not_isTokenOf_as under)) (takes_pure _)
  | renamed under =>
    exact Takes.closes <| .bind (takes_popName (.name _)) <| .bind takes_topIsToken_as <|
      .bind takes_pop <| .bind (takes_popName (.name _)) (takes_pure _)
  | exportSpecifiers list under =>
    exact .expect <| .expect <| Takes.closes fun input =>
      list.run (fun _ => ⟨rfl, rfl⟩) ⟨rfl, by decide⟩ input
  | exportFunction under =>
    exact Takes.closes <| .bind (takes_pure _) <|
      .bind (takes_popToken (.keyword .exportKeyword)) (takes_pure _)
  | exportList under =>
    exact Takes.closes <| .bind (takes_pure _) <|
      .bind (takes_popToken (.keyword .exportKeyword)) (takes_pure _)

/-- A reduction that meets a misfit takes its tokens and then reports it. -/
theorem Misfit.closes {reduction : Reduction} {stack : List Entry} {error : ParseError}
    (h : Misfit reduction stack error) :
    Closes reduction.absorbed (reduction.build none) stack (.error error) := by
  cases h with
  | unopened body =>
    have none : (statementEntries body).dropWhile
        (fun entry => !entry.symbol.isTokenOf (.mark .leftBrace)) = [] := by
      rw [List.dropWhile_eq_nil_iff]
      intro entry mem
      rw [isTokenOf_statementEntries _ body entry mem]
      rfl
    have state : stateOf (statementEntries body) = .beforeStatement := by
      unfold statementEntries
      cases body.reverse <;> rfl
    refine .expect fun input => ?_
    show (Move.popUntil (.mark .leftBrace) (.mark .rightBrace) _ >>= _) = _
    unfold Move.popUntil
    simp only [none, Config.state_eq, state]
    rfl
  | @uncallable more above arguments symbol value state rest list operand unnamed =>
    have noName : symbol.name? = Option.none := by
      cases operand with
      | name name => exact absurd rfl (unnamed name)
      | number value => rfl
      | node kind =>
        cases value with
        | var name => exact absurd rfl (unnamed name)
        | _ => rfl
    refine .expect fun input => (list.run (fun _ => ⟨rfl, rfl⟩) ⟨rfl, by decide⟩ input).trans ?_
    show (Move.popName _ >>= _) = _
    rw [Move.popName, popAs_eq_error noName, operand.kind]
    rfl

end NumScript.Automaton
