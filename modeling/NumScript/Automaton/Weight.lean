import NumScript.Automaton.Build

/-!
# Why the automaton stops

Neither the number of tokens that are left nor the height of the stack falls at every step: a product
is built without taking a token, and a single operand is replaced by a node. What falls at every step
is the WEIGHT of the configuration: six for each token that is not taken yet, and for each symbol on
the stack between zero and four, so that putting a token on the stack loses two at least.

A move SPENDS `n` when the weight falls by `n` or more whenever it succeeds (`Spends`); what a row of
moves spends is the sum of what each spends (`Spends.bind`). The reductions are then paid for by the
symbols they take: an operand weighs four until it is complete and two from then on, an additive
operator four, a multiplicative one two.
-/

namespace NumScript.Automaton

/-! ## 1. Weights -/

/-- The weight of a token on the stack. -/
def tokenWeight : Token → Nat
  | .identifier _ => 4
  | .number _ => 4
  | .operator op =>
    match op.operatorClass with
    | .additive => 4
    | .multiplicative => 2
    | .relational => 1
  | .keyword _ => 1
  | .mark _ => 1

/-- The weight of a node. -/
def Node.weight : Node → Nat
  | .expression _ true => 2
  | .expression _ false => 4
  | _ => 0

/-- The weight of a symbol on the stack. -/
def Symbol.weight : Symbol → Nat
  | .token value => tokenWeight value
  | .node value => value.weight

/-- The weight of a stack. -/
def stackWeight : List Entry → Nat
  | [] => 0
  | entry :: rest => entry.symbol.weight + stackWeight rest

/-- The weight of a configuration. -/
def Config.weight (config : Config) : Nat :=
  6 * config.input.tokens.length + stackWeight config.stack

theorem tokenWeight_le (token : Token) : tokenWeight token ≤ 4 := by
  unfold tokenWeight
  split <;> try omega
  split <;> omega

theorem one_le_weight_of_isTokenOf {kind : Kind} {symbol : Symbol}
    (h : symbol.isTokenOf kind = true) : 1 ≤ symbol.weight := by
  cases symbol with
  | token value =>
    show 1 ≤ tokenWeight value
    unfold tokenWeight
    split <;> try omega
    split <;> omega
  | node value => cases h

theorem two_le_weight_of_expression {symbol : Symbol} {value : Expression}
    (h : symbol.expression? = some value) : 2 ≤ symbol.weight := by
  unfold Symbol.expression? at h
  split at h
  · simp [Symbol.weight, tokenWeight]
  · simp [Symbol.weight, tokenWeight]
  · rename_i value complete
    cases complete <;> simp [Symbol.weight, Node.weight]
  · cases h

theorem two_le_weight_of_name {symbol : Symbol} {name : String}
    (h : symbol.name? = some name) : 2 ≤ symbol.weight := by
  unfold Symbol.name? at h
  split at h
  · simp [Symbol.weight, tokenWeight]
  · rename_i name complete
    cases complete <;> simp [Symbol.weight, Node.weight]
  · cases h

theorem weight_of_isChainElement {symbol : Symbol} (h : symbol.isChainElement = true) :
    symbol.weight = 4 := by
  unfold Symbol.isChainElement at h
  split at h
  · rfl
  · rfl
  · rename_i op
    simp only [beq_iff_eq] at h
    simp [Symbol.weight, tokenWeight, h]
  · rename_i value complete
    cases complete
    · rfl
    · cases h
  · cases h

theorem stackWeight_dropWhile_le (p : Entry → Bool) : ∀ stack : List Entry,
    stackWeight (stack.dropWhile p) ≤ stackWeight stack
  | [] => Nat.le_refl _
  | entry :: rest => by
    have ih := stackWeight_dropWhile_le p rest
    rw [List.dropWhile_cons]
    split
    · show stackWeight (rest.dropWhile p) ≤ entry.symbol.weight + stackWeight rest
      omega
    · exact Nat.le_refl _

/-- Each element of the sum on the top of the stack weighs four. -/
theorem stackWeight_chain : ∀ stack : List Entry,
    4 * (stack.takeWhile fun entry => entry.symbol.isChainElement).length +
      stackWeight (stack.dropWhile fun entry => entry.symbol.isChainElement) = stackWeight stack
  | [] => rfl
  | entry :: rest => by
    have ih := stackWeight_chain rest
    rw [List.takeWhile_cons, List.dropWhile_cons]
    by_cases h : entry.symbol.isChainElement = true
    · have four := weight_of_isChainElement h
      rw [if_pos h, if_pos h, List.length_cons, stackWeight]
      omega
    · rw [if_neg h, if_neg h]
      simp

/-! ## 2. What a move spends -/

/-- Whenever the move succeeds, the weight falls by `n` or more. -/
def Spends {α : Type} (move : Move α) (n : Nat) : Prop :=
  ∀ config value after, move config = .ok (value, after) → after.weight + n ≤ config.weight

/-- Whenever the move builds a node, the weight of the configuration and the node together falls by
    `n` or more. -/
def Builds (move : Move Node) (n : Int) : Prop :=
  ∀ config node after, move config = .ok (node, after) →
    (after.weight : Int) + node.weight + n ≤ config.weight

/-- A row of two moves succeeds when the first does and the second does after it. -/
theorem bind_eq_ok {α β : Type} {first : Move α} {next : α → Move β} {config : Config}
    {result : β × Config} (h : (first >>= next) config = .ok result) :
    ∃ value between, first config = .ok (value, between) ∧ next value between = .ok result := by
  simp only [bind, StateT.bind, Except.bind] at h
  split at h
  · cases h
  · rename_i pair eq
    exact ⟨pair.1, pair.2, eq, h⟩

theorem Spends.mono {α : Type} {move : Move α} {m n : Nat} (h : Spends move m) (le : n ≤ m) :
    Spends move n := by
  intro config value after eq
  have := h config value after eq
  omega

theorem Spends.bind {α β : Type} {first : Move α} {next : α → Move β} {m n : Nat}
    (h : Spends first m) (k : ∀ value, Spends (next value) n) : Spends (first >>= next) (m + n) := by
  intro config value after eq
  obtain ⟨middle, between, eq₁, eq₂⟩ := bind_eq_ok eq
  have := h config middle between eq₁
  have := k middle between value after eq₂
  omega

theorem Builds.bind {α : Type} {first : Move α} {next : α → Move Node} {m : Nat} {n : Int}
    (h : Spends first m) (k : ∀ value, Builds (next value) (n - m)) : Builds (first >>= next) n := by
  intro config node after eq
  obtain ⟨middle, between, eq₁, eq₂⟩ := bind_eq_ok eq
  have := h config middle between eq₁
  have := k middle between node after eq₂
  omega

theorem Builds.mono {move : Move Node} {m n : Int} (h : Builds move m) (le : n ≤ m) :
    Builds move n := by
  intro config node after eq
  have := h config node after eq
  omega

theorem spends_pure {α : Type} (value : α) : Spends (pure value) 0 := by
  intro config result after eq
  cases eq
  exact Nat.le_refl _

theorem builds_pure {node : Node} {n : Int} (le : n ≤ -(node.weight : Int)) :
    Builds (pure node) n := by
  intro config result after eq
  cases eq
  omega

theorem spends_fail {α : Type} (error : Config → ParseError) (n : Nat) :
    Spends (Move.fail (α := α) error) n := by
  intro config value after eq
  cases eq

/-! ## 3. The moves -/

theorem spends_advance : Spends Move.advance 6 := by
  intro config token after eq
  unfold Move.advance at eq
  split at eq
  · cases eq
  · cases eq
  · rename_i rest stop _ tokens _
    cases eq
    simp only [Config.weight, tokens, List.length_cons]
    omega

theorem spends_expect (kind : Kind) : Spends (Move.expect kind) 6 := by
  intro config token after eq
  unfold Move.expect at eq
  split at eq
  · cases eq
  · split at eq
    · exact spends_advance config token after eq
    · cases eq

/-- A symbol that is taken off the stack is paid back in full. -/
theorem spends_popAs {α : Type} {read : Symbol → Option α} {n : Nat}
    (h : ∀ symbol value, read symbol = some value → n ≤ symbol.weight) :
    Spends (Move.popAs read) n := by
  intro config value after eq
  obtain ⟨symbol, between, eq₁, eq₂⟩ := bind_eq_ok eq
  unfold Move.pop at eq₁
  split at eq₁
  · cases eq₁
  · rename_i entry rest stack
    cases eq₁
    cases found : read entry.symbol with
    | none =>
      rw [found] at eq₂
      cases eq₂
    | some result =>
      rw [found] at eq₂
      cases eq₂
      have := h _ _ found
      simp only [Config.weight, stack, stackWeight]
      omega

theorem spends_pop : Spends Move.pop 0 := by
  intro config symbol after eq
  unfold Move.pop at eq
  split at eq
  · cases eq
  · rename_i stack
    cases eq
    simp only [Config.weight, stack, stackWeight]
    omega

theorem spends_popToken (kind : Kind) : Spends (Move.popToken kind) 1 :=
  spends_popAs fun symbol _ h => by
    split at h
    · rename_i token
      exact one_le_weight_of_isTokenOf token
    · cases h

theorem spends_popName : Spends Move.popName 2 :=
  spends_popAs fun _ _ h => two_le_weight_of_name h

theorem spends_popExpression : Spends Move.popExpression 2 :=
  spends_popAs fun _ _ h => two_le_weight_of_expression h

/-- The weight of an operator of this class. -/
def operatorWeight : OperatorClass → Nat
  | .additive => 4
  | .multiplicative => 2
  | .relational => 1

theorem spends_popOperator (wanted : OperatorClass) :
    Spends (Move.popOperator wanted) (operatorWeight wanted) :=
  spends_popAs fun symbol op h => by
    split at h
    · rename_i op'
      split at h
      · rename_i same
        subst same
        simp only [Symbol.weight, tokenWeight]
        cases op'.operatorClass <;> simp [operatorWeight]
      · cases h
    · cases h

theorem spends_popUntil (opening closing : Kind) : Spends (Move.popUntil opening closing) 0 := by
  intro config symbols after eq
  unfold Move.popUntil at eq
  have le := stackWeight_dropWhile_le (fun entry => !entry.symbol.isTokenOf opening) config.stack
  split at eq
  · cases eq
  · rename_i below
    cases eq
    rw [below, stackWeight] at le
    simp only [Config.weight]
    omega

theorem spends_readAll {α : Type} (read : Symbol → Option (Option α)) : ∀ symbols : List Symbol,
    Spends (Move.readAll read symbols) 0
  | [] => spends_pure _
  | symbol :: rest => by
    unfold Move.readAll
    split
    · exact spends_fail _ _
    · exact spends_readAll read rest
    · exact Spends.bind (spends_readAll read rest) fun _ => spends_pure _

theorem spends_asExpression (symbol : Symbol) : Spends (asExpression symbol) 0 := by
  unfold asExpression
  split
  · exact spends_pure _
  · exact spends_fail _ _

theorem spends_asAdditive (symbol : Symbol) : Spends (asAdditive symbol) 0 := by
  unfold asAdditive
  split
  · split
    · exact spends_pure _
    · exact spends_fail _ _
  · exact spends_fail _ _

theorem spends_joinChain (left : Expression) (symbols : List Symbol) :
    Spends (joinChain left symbols) 0 := by
  fun_induction joinChain left symbols with
  | case1 left => exact spends_pure _
  | case2 left operator => exact Spends.bind (spends_asAdditive _) fun _ => spends_fail _ 0
  | case3 left operator operand rest ih =>
    exact Spends.bind (spends_asAdditive _) fun op =>
      Spends.bind (spends_asExpression _) fun right => ih op right

theorem spends_incomingExpression (incoming : Option Node) :
    Spends (incomingExpression incoming) 0 := by
  unfold incomingExpression
  split
  · exact spends_fail _ _
  · exact spends_pure _
  · exact spends_fail _ _

theorem spends_incomingBlock (incoming : Option Node) : Spends (incomingBlock incoming) 0 := by
  unfold incomingBlock
  split
  · exact spends_fail _ _
  · exact spends_pure _
  · exact spends_fail _ _

theorem spends_incomingExport (incoming : Option Node) : Spends (incomingExport incoming) 0 := by
  unfold incomingExport
  split
  · exact spends_fail _ _
  · exact spends_pure _
  · exact spends_pure _
  · exact spends_fail _ _

/-! ## 4. The reductions -/

theorem builds_term : Builds reduceTerm 2 := by
  refine .bind spends_popExpression fun _ => .bind (spends_popOperator _) fun _ =>
    .bind spends_popExpression fun _ => builds_pure ?_
  simp [Node.weight, operatorWeight]

theorem builds_fullExpression : Builds reduceFullExpression 2 := by
  intro config node after eq
  obtain ⟨chain, between, eq₁, eq₂⟩ := bind_eq_ok eq
  have four := stackWeight_chain config.stack
  have chained : chain.length =
      (config.stack.takeWhile fun entry => entry.symbol.isChainElement).length := by
    cases eq₁
    simp
  have after_chain : between.weight + 4 * chain.length = config.weight := by
    cases eq₁
    simp only [Config.weight]
    omega
  cases chain with
  | nil => cases eq₂
  | cons first rest =>
    have joined : Builds (do
        let left ← asExpression first
        let value ← joinChain left rest
        pure (.expression value true)) (-2) := by
      refine .bind (spends_asExpression _) fun _ => .bind (spends_joinChain _ _) fun _ =>
        builds_pure ?_
      simp [Node.weight]
    have := joined _ _ _ eq₂
    simp only [List.length_cons] at after_chain
    omega

theorem builds_parenthesized (incoming : Option Node) : Builds (reduceParenthesized incoming) 3 := by
  refine .bind (spends_incomingExpression _) fun _ => .bind (spends_expect _) fun _ =>
    .bind (spends_popToken _) fun _ => builds_pure ?_
  simp [Node.weight]

theorem builds_unaryExpression : Builds reduceUnaryExpression 2 := by
  refine .bind spends_popExpression fun _ => .bind (spends_popOperator _) fun _ => builds_pure ?_
  simp [Node.weight, operatorWeight]

theorem builds_callExpression : Builds reduceCallExpression 4 := by
  refine .bind (spends_expect _) fun _ => .bind (spends_popUntil _ _) fun _ =>
    .bind (spends_readAll _ _) fun _ => .bind spends_popName fun _ => builds_pure ?_
  simp [Node.weight]

theorem builds_assignmentExpression (incoming : Option Node) :
    Builds (reduceAssignmentExpression incoming) (-1) := by
  refine .bind (spends_incomingExpression _) fun _ => .bind (spends_popToken _) fun _ =>
    .bind spends_popName fun _ => builds_pure ?_
  simp [Node.weight]

theorem builds_test : Builds reduceTest 8 := by
  refine .bind (spends_expect _) fun _ => .bind spends_popExpression fun _ =>
    .bind (spends_popOperator _) fun _ => .bind spends_popExpression fun _ =>
      .bind (spends_popToken _) fun _ => builds_pure ?_
  simp [Node.weight, operatorWeight]

theorem builds_expressionStatement : Builds reduceExpressionStatement 8 := by
  refine .bind (spends_expect _) fun _ => .bind spends_popExpression fun _ => builds_pure ?_
  simp [Node.weight]

theorem builds_variableDeclaration (incoming : Option Node) :
    Builds (reduceVariableDeclaration incoming) 9 := by
  cases incoming with
  | none =>
    refine .bind (spends_expect _) fun _ => .bind spends_popName fun _ =>
      .bind (spends_popToken _) fun _ => builds_pure ?_
    simp [Node.weight]
  | some node =>
    refine .bind (spends_incomingExpression _) fun _ => .bind (spends_expect _) fun _ =>
      .bind (spends_popToken _) fun _ => .bind spends_popName fun _ =>
        .bind (spends_popToken _) fun _ => builds_pure ?_
    simp [Node.weight]

theorem builds_params : Builds reduceParams 6 := by
  refine .bind (spends_expect _) fun _ => .bind (spends_popUntil _ _) fun _ =>
    .bind (spends_readAll _ _) fun _ => builds_pure ?_
  simp [Node.weight]

theorem builds_functionDeclaration (incoming : Option Node) :
    Builds (reduceFunctionDeclaration incoming) 3 := by
  refine .bind (spends_incomingBlock _) fun _ =>
    .bind (spends_popAs (n := 0) fun _ _ _ => Nat.zero_le _) fun _ => .bind spends_popName fun _ =>
      .bind (spends_popToken _) fun _ => builds_pure ?_
  simp [Node.weight]

theorem builds_ifStatement (incoming : Option Node) : Builds (reduceIfStatement incoming) 4 := by
  refine .bind (spends_incomingBlock _) fun _ => .bind (spends_popToken _) fun _ =>
    .bind (spends_popAs (n := 0) fun _ _ _ => Nat.zero_le _) fun _ =>
      .bind spends_popExpression fun _ => .bind (spends_popToken _) fun _ => builds_pure ?_
  simp [Node.weight]

theorem builds_returnStatement (incoming : Option Node) :
    Builds (reduceReturnStatement incoming) 7 := by
  refine .bind (spends_incomingExpression _) fun _ => .bind (spends_expect _) fun _ =>
    .bind (spends_popToken _) fun _ => builds_pure ?_
  simp [Node.weight]

theorem builds_block : Builds reduceBlock 6 := by
  refine .bind (spends_expect _) fun _ => .bind (spends_popUntil _ _) fun _ =>
    .bind (spends_readAll _ _) fun _ => builds_pure ?_
  simp [Node.weight]

theorem spends_topIsToken (kind : Kind) : Spends (topIsToken kind) 0 := by
  intro config value after eq
  unfold topIsToken at eq
  split at eq <;> cases eq <;> exact Nat.le_refl _

theorem builds_exportSpecifier : Builds reduceExportSpecifier 2 := by
  refine .bind spends_popName fun _ => .bind (spends_topIsToken _) fun isAs => ?_
  cases isAs with
  | true =>
    refine .bind spends_pop fun _ => .bind spends_popName fun _ => builds_pure ?_
    simp [Node.weight]
  | false =>
    refine builds_pure ?_
    simp [Node.weight]

theorem builds_exportSpecifiers : Builds reduceExportSpecifiers 12 := by
  refine .bind (spends_expect _) fun _ => .bind (spends_expect _) fun _ =>
    .bind (spends_popUntil _ _) fun _ => .bind (spends_readAll _ _) fun _ => builds_pure ?_
  simp [Node.weight]

theorem builds_exportDeclaration (incoming : Option Node) :
    Builds (reduceExportDeclaration incoming) 1 := by
  refine .bind (spends_incomingExport _) fun _ => .bind (spends_popToken _) fun _ => builds_pure ?_
  simp [Node.weight]

/-- **A reduction that a token sets off loses two at least.** -/
theorem builds_of_token (reduction : Reduction) : Builds (reduction.build none) 2 := by
  cases reduction with
  | term => exact builds_term
  | fullExpression => exact builds_fullExpression
  | parenthesized => exact (builds_parenthesized none).mono (by decide)
  | unaryExpression => exact builds_unaryExpression
  | callExpression => exact builds_callExpression.mono (by decide)
  | assignmentExpression =>
    intro config node after eq
    obtain ⟨_, _, eq₁, _⟩ := bind_eq_ok eq
    cases eq₁
  | expressionStatement => exact builds_expressionStatement.mono (by decide)
  | variableDeclaration => exact (builds_variableDeclaration none).mono (by decide)
  | params => exact builds_params.mono (by decide)
  | functionDeclaration => exact (builds_functionDeclaration none).mono (by decide)
  | test => exact builds_test.mono (by decide)
  | ifStatement => exact (builds_ifStatement none).mono (by decide)
  | returnStatement => exact (builds_returnStatement none).mono (by decide)
  | block => exact builds_block.mono (by decide)
  | exportSpecifier => exact builds_exportSpecifier
  | exportSpecifiers => exact builds_exportSpecifiers.mono (by decide)
  | exportDeclaration =>
    intro config node after eq
    obtain ⟨_, _, eq₁, _⟩ := bind_eq_ok eq
    cases eq₁

/-- **A reduction that a node sets off loses one at least, the weight of that node included.** -/
theorem builds_of_node (reduction : Reduction) (node : Node) :
    Builds (reduction.build (some node)) (1 - node.weight) := by
  have atLeast {move : Move Node} {n : Int} (h : Builds move n) (le : 1 ≤ n) :
      Builds move (1 - node.weight) := h.mono (by omega)
  cases reduction with
  | term => exact atLeast builds_term (by decide)
  | fullExpression => exact atLeast builds_fullExpression (by decide)
  | parenthesized => exact atLeast (builds_parenthesized _) (by decide)
  | unaryExpression => exact atLeast builds_unaryExpression (by decide)
  | callExpression => exact atLeast builds_callExpression (by decide)
  | assignmentExpression =>
    cases node with
    | expression value complete =>
      refine (builds_assignmentExpression _).mono ?_
      cases complete <;> simp [Node.weight]
    | _ =>
      intro config node after eq
      obtain ⟨_, _, eq₁, _⟩ := bind_eq_ok eq
      cases eq₁
  | expressionStatement => exact atLeast builds_expressionStatement (by decide)
  | variableDeclaration => exact atLeast (builds_variableDeclaration (some node)) (by decide)
  | params => exact atLeast builds_params (by decide)
  | functionDeclaration => exact atLeast (builds_functionDeclaration _) (by decide)
  | test => exact atLeast builds_test (by decide)
  | ifStatement => exact atLeast (builds_ifStatement _) (by decide)
  | returnStatement => exact atLeast (builds_returnStatement _) (by decide)
  | block => exact atLeast builds_block (by decide)
  | exportSpecifier => exact atLeast builds_exportSpecifier (by decide)
  | exportSpecifiers => exact atLeast builds_exportSpecifiers (by decide)
  | exportDeclaration => exact atLeast (builds_exportDeclaration _) (by decide)

end NumScript.Automaton
