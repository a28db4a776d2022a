import NumScript.Parse
import NumScript.Proofs.Automaton.Reachable
import NumScript.Proofs.Grammar.Rules

/-!
# The automaton follows every derivation

Tokens that a phrase is written with are read by the automaton as this phrase, whatever follows, as
far as the automaton does not have to look at what follows (`Followed`). An operand is put on the
stack, a sum is put there as a chain that is not complete yet, a block or a function is built and has
to be placed. What has to follow is the least that the table asks for: an operand ends at an operator
or at a closing mark, an expression at an additive operator or at a closing mark.

The proof is by induction on the derivation, one rule at a time (`followed_of_derives`). From it
follows `parseScan_of_derivedFrom`: the program of a derivation is the result of the run.
-/

namespace NumScript.Automaton

/-! ## 1. Moves over tokens that all can be read -/

/-- A stage that reads these tokens, after which the script ends. -/
def reads (stack : List Entry) (tokens : List Token) : Stage := .reading ⟨stack, ⟨tokens, none⟩⟩

/-- A stage that places a node before these tokens, after which the script ends. -/
def places (stack : List Entry) (tokens : List Token) (node : Node) : Stage :=
  .placing ⟨stack, ⟨tokens, none⟩⟩ node

/-- Any number of moves. -/
abbrev Leads : Stage → Stage → Prop := Relation.ReflTransGen Stage.Moves

section Moves

variable {stack rest : List Entry} {token : Token} {tokens taken left : List Token} {next : State}
  {reduction : Reduction} {node incoming : Node}

theorem leads_shift (shifts : action? (stateOf stack) (tokenKind token) = some (.shift next)) :
    Leads (reads stack (token :: tokens)) (reads (⟨next, .token token⟩ :: stack) tokens) :=
  .single (.shift shifts fun _ => rfl)

theorem leads_place (shifts : action? (stateOf stack) node.kind = some (.shift next)) :
    Leads (places stack tokens node) (reads (⟨next, .node node⟩ :: stack) tokens) :=
  .single (.place shifts)

theorem absorbs_append (taken left : List Token) :
    Absorbs (taken.map tokenKind) ⟨taken ++ left, none⟩ ⟨left, none⟩ := by
  induction taken with
  | nil => exact .nil _
  | cons token taken ih => exact .cons rfl (fun _ => rfl) ih

/-- A reduction that the next token calls for, and the tokens it takes. -/
theorem leads_reduce (taken : List Token)
    (reduces : action? (stateOf stack) (tokenKind token) = some (.reduce reduction))
    (handle : Handle reduction none stack node rest)
    (absorbed : reduction.absorbed = taken.map tokenKind) (eq : token :: tokens = taken ++ left) :
    Leads (reads stack (token :: tokens)) (places rest left node) := by
  refine .single (.reduce reduces handle ?_)
  rw [absorbed, eq]
  exact absorbs_append taken left

/-- A reduction that a node calls for, and the tokens it takes. -/
theorem leads_join (taken : List Token)
    (reduces : action? (stateOf stack) incoming.kind = some (.reduce reduction))
    (handle : Handle reduction (some incoming) stack node rest)
    (absorbed : reduction.absorbed = taken.map tokenKind) (eq : tokens = taken ++ left) :
    Leads (places stack tokens incoming) (places rest left node) := by
  refine .single (.join reduces handle ?_)
  rw [absorbed, eq]
  exact absorbs_append taken left

end Moves

/-! ## 2. Operands and sums -/

/-- An operand that the tokens begin with is put on the stack. -/
def Lands (stack : List Entry) (value : Expression) (tokens left : List Token) : Prop :=
  ∃ symbol next, Operand symbol value ∧
    action? (stateOf stack) (expressionKind value) = some (.shift next) ∧
    Leads (reads stack tokens) (reads (⟨next, symbol⟩ :: stack) left)

/-- A sum that the tokens begin with is put on the stack. Only before a statement can it be a name
    that may still become the target of an assignment. -/
def Sums (stack : List Entry) (value : Expression) (tokens left : List Token) : Prop :=
  ∃ chain, Chain chain value ∧
    (stateOf (chain ++ stack) = .afterIdentifier → stateOf stack = .beforeStatement) ∧
    Leads (reads stack tokens) (reads (chain ++ stack) left)

theorem exists_shift : ∀ state ∈ operandStates, ∀ kind ∈ operandKinds, ∃ next ∈ calleeStates,
    action? state kind = some (.shift next) := by decide

theorem exists_shift_additive : ∀ state ∈ additiveStates, ∀ kind ∈ operandKinds,
    ∃ next ∈ summandStates, action? state kind = some (.shift next) := by decide

section Operands

variable {stack : List Entry} {value : Expression} {tokens left : List Token} {token : Token}

/-- Where an operand goes: one of the states that the table has for operands there. -/
theorem Lands.target {states targets : List State} (lands : Lands stack value tokens left)
    (under : stateOf stack ∈ states) (all : ∀ state ∈ states, ∀ kind ∈ operandKinds,
      ∃ next ∈ targets, action? state kind = some (.shift next)) :
    ∃ symbol next, next ∈ targets ∧ Operand symbol value ∧
      action? (stateOf stack) (expressionKind value) = some (.shift next) ∧
      Leads (reads stack tokens) (reads (⟨next, symbol⟩ :: stack) left) := by
  obtain ⟨symbol, next, operand, shifts, leads⟩ := lands
  obtain ⟨next', mem, shifts'⟩ := all _ under _ operand.expressionKind_mem
  cases shifts.symm.trans shifts'
  exact ⟨symbol, next, mem, operand, shifts, leads⟩

/-- Where an operand goes, in a state in which all operands go the same way. -/
theorem Lands.only_target (state next : State) (lands : Lands stack value tokens left)
    (eq : stateOf stack = state)
    (all : ∀ kind ∈ operandKinds, action? state kind = some (.shift next)) :
    ∃ symbol, Operand symbol value ∧
      Leads (reads stack tokens) (reads (⟨next, symbol⟩ :: stack) left) := by
  obtain ⟨symbol, next', operand, shifts, leads⟩ := lands
  rw [eq] at shifts
  cases shifts.symm.trans (all _ operand.expressionKind_mem)
  exact ⟨symbol, operand, leads⟩

/-- A node that is built as an operand is put on the stack. -/
theorem Lands.of_node (under : stateOf stack ∈ operandStates)
    (operand : expressionKind value ∈ operandKinds)
    (leads : Leads (reads stack tokens) (places stack left (.expression value false))) :
    Lands stack value tokens left := by
  obtain ⟨next, -, shifts⟩ := exists_shift _ under _ operand
  exact ⟨_, next, .node operand, shifts, leads.trans (leads_place shifts)⟩

/-- An operand alone is a sum. -/
theorem Lands.sums (lands : Lands stack value tokens left)
    (under : stateOf stack ∈ additiveStates) : Sums stack value tokens left := by
  obtain ⟨symbol, next, after, operand, shifts, leads⟩ := lands.target under exists_shift_additive
  refine ⟨_, .first after operand, ?_, leads⟩
  intro identifier
  obtain rfl : next = .afterIdentifier := identifier
  exact (action?_eq_some_iff.1 shifts).imp (fun below _ => below = .beforeStatement) (by decide)

/-- A sum is complete at a closing mark. -/
theorem Sums.completes (sums : Sums stack value tokens (token :: left))
    (under : stateOf stack ∈ expressionStates) (ends : tokenKind token ∈ expressionEnds)
    (semicolon : stateOf stack = .beforeStatement → tokenKind token = .mark .semicolon) :
    Leads (reads stack tokens) (places stack (token :: left) (.expression value true)) := by
  obtain ⟨chain, sum, first, leads⟩ := sums
  have reduces : action? (stateOf (chain ++ stack)) (tokenKind token) =
      some (.reduce .fullExpression) := by
    have after := sum.stateOf_mem stack
    simp only [summandStates, List.mem_cons, List.not_mem_nil, or_false] at after
    rcases after with after | after
    · rw [semicolon (first after), after]
      rfl
    · have all : ∀ kind ∈ expressionEnds,
          action? .afterAdditiveOperand kind = some (.reduce .fullExpression) := by decide
      rw [after, all _ ends]
  exact leads.trans (leads_reduce [] reduces (.fullExpression sum under) rfl rfl)

/-- A sum between parentheses is an operand. -/
theorem Sums.lands (sums : Sums (⟨.beforeOperand, .token (.mark .leftParen)⟩ :: stack) value tokens
      (.mark .rightParen :: left)) (under : stateOf stack ∈ operandStates) :
    Lands stack value (.mark .leftParen :: tokens) left := by
  have opens : ∀ state ∈ operandStates,
      action? state (.mark .leftParen) = some (.shift .beforeOperand) := by decide
  have operand : expressionKind value ∈ operandKinds := by
    obtain ⟨chain, sum, -⟩ := sums
    exact sum.expressionKind_mem
  refine .of_node under operand ?_
  refine (leads_shift (opens _ under)).trans ?_
  have inside : State.beforeOperand ∈ expressionStates := by decide
  refine (sums.completes inside (by decide) (fun first => nomatch first)).trans ?_
  exact leads_join [.mark .rightParen] rfl (.parenthesized operand under) rfl rfl

end Operands

/-! ## 3. Lists -/

/-- The members of a list are put on the stack one after the other, up to the closing mark. -/
theorem leads_members {α : Type} (shape : ListShape α) (bracket : Symbol) (bottom : List Entry)
    (closing : Token) (left : List Token) {items : List (α × List Token)} {words : List Token}
    (list : Separated (items.map Prod.snd) words)
    (comma : action? shape.after (.mark .comma) = some (.shift shape.before))
    (each : ∀ item ∈ items, ∀ stack token left, stateOf stack = shape.before →
      tokenKind token ∈ [.mark .comma, tokenKind closing] →
      Leads (reads stack (item.2 ++ token :: left))
        (reads (⟨shape.after, shape.item item.1⟩ :: stack) (token :: left)))
    {above : List Entry} {values : List α} (listed : Listed shape true above values) :
    ∃ more above', Listed shape more above' (values ++ items.map Prod.fst) ∧
      Leads (reads (above ++ ⟨shape.before, bracket⟩ :: bottom) (words ++ closing :: left))
        (reads (above' ++ ⟨shape.before, bracket⟩ :: bottom) (closing :: left)) := by
  have ready {above : List Entry} {values : List α} (listed : Listed shape true above values) :
      stateOf (above ++ ⟨shape.before, bracket⟩ :: bottom) = shape.before :=
    listed.stateOf_append bracket bottom
  generalize eq : items.map Prod.snd = members at list
  induction list generalizing items above values with
  | nil =>
    obtain rfl := List.map_eq_nil_iff.1 eq
    rw [List.map_nil, List.append_nil]
    exact ⟨true, above, listed, .refl⟩
  | last words =>
    obtain ⟨item, rfl, rfl⟩ : ∃ item, items = [item] ∧ item.2 = words := by
      cases items with
      | nil => cases eq
      | cons item rest =>
        obtain ⟨first, last⟩ := List.cons.inj eq
        exact ⟨item, by rw [List.map_eq_nil_iff.1 last], first⟩
    refine ⟨false, _, .item item.1 listed, ?_⟩
    exact each item (List.mem_singleton_self _) _ closing left (ready listed) (by simp)
  | @cons members rest words more ih =>
    obtain ⟨item, items, rfl, rfl, rfl⟩ : ∃ item items', items = item :: items' ∧
        item.2 = words ∧ items'.map Prod.snd = members := by
      cases items with
      | nil => cases eq
      | cons item items => exact ⟨item, items, rfl, List.cons.inj eq⟩
    have first := each item (List.mem_cons_self ..) _ (.mark .comma) (rest ++ closing :: left)
      (ready listed) (List.mem_cons_self ..)
    obtain ⟨more, above', listed', leads⟩ := ih
      (fun item mem => each item (List.mem_cons_of_mem _ mem)) (.comma (.item item.1 listed)) rfl
    refine ⟨more, above', ?_, ?_⟩
    · rw [List.append_assoc] at listed'
      exact listed'
    · rw [List.append_assoc]
      exact (first.trans (leads_shift comma)).trans leads

/-- A whole list, from its opening bracket on. -/
theorem leads_list {α : Type} (shape : ListShape α) (bracket : Symbol) (bottom : List Entry)
    (closing : Token) (left : List Token) {items : List (α × List Token)} {words : List Token}
    (list : Separated (items.map Prod.snd) words)
    (comma : action? shape.after (.mark .comma) = some (.shift shape.before))
    (each : ∀ item ∈ items, ∀ stack token left, stateOf stack = shape.before →
      tokenKind token ∈ [.mark .comma, tokenKind closing] →
      Leads (reads stack (item.2 ++ token :: left))
        (reads (⟨shape.after, shape.item item.1⟩ :: stack) (token :: left))) :
    ∃ more above, Listed shape more above (items.map Prod.fst) ∧
      Leads (reads (⟨shape.before, bracket⟩ :: bottom) (words ++ closing :: left))
        (reads (above ++ ⟨shape.before, bracket⟩ :: bottom) (closing :: left)) :=
  leads_members shape bracket bottom closing left list comma each .nil

/-! ## 4. Phrases -/

/-- The automaton reads these tokens as this phrase. -/
def Followed : Phrase → List Token → Prop
  | .name name, words => ∀ stack left, stateOf stack ∈ operandStates →
    Lands stack (.var name) (words ++ left) left
  | .primary value, words => ∀ stack left, stateOf stack ∈ operandStates →
    Lands stack value (words ++ left) left
  | .unary value, words => ∀ stack token left, stateOf stack ∈ operandStates →
    tokenKind token ∈ operandEnds → Lands stack value (words ++ token :: left) (token :: left)
  | .term value, words => ∀ stack token left, stateOf stack ∈ additiveStates →
    tokenKind token ∈ operandEnds → Lands stack value (words ++ token :: left) (token :: left)
  | .expression value, words => ∀ stack token left, stateOf stack ∈ expressionStates →
    tokenKind token ∈ .operator .additive :: expressionEnds →
    Sums stack value (words ++ token :: left) (token :: left)
  | .statement value, words => ∀ stack left, stateOf stack = .beforeStatement →
    Leads (reads stack (words ++ left))
      (reads (⟨.beforeStatement, .node (.statement value)⟩ :: stack) left)
  | .block body, words => ∀ stack left,
    stateOf stack ∈ [.beforeBody, .beforeConsequent, .beforeAlternate] →
    Leads (reads stack (words ++ left)) (places stack left (.block body))
  | .function declaration, words => ∀ stack left,
    stateOf stack ∈ [.beforeStatement, .afterExportKeyword] →
    Leads (reads stack (words ++ left)) (places stack left
      (.statement (.function declaration.name declaration.params declaration.body)))

namespace Followed

theorem identifier (name : String) : Followed (.name name) [.identifier name] := by
  intro stack left under
  obtain ⟨next, -, shifts⟩ := exists_shift _ under .identifier (by decide)
  exact ⟨_, next, .name name, shifts, leads_shift shifts⟩

theorem number (value : Binary64) : Followed (.primary (.number value)) [.number value] := by
  intro stack left under
  obtain ⟨next, -, shifts⟩ := exists_shift _ under .numericLiteral (by decide)
  exact ⟨_, next, .number value, shifts, leads_shift shifts⟩

theorem enclosedName {name : String} {words : List Token} (inner : Followed (.name name) words) :
    Followed (.name name) (.mark .leftParen :: words ++ [.mark .rightParen]) := by
  intro stack left under
  rw [List.append_assoc]
  exact ((inner (⟨.beforeOperand, .token (.mark .leftParen)⟩ :: stack) _
    (by decide : State.beforeOperand ∈ operandStates)).sums
    (by decide : State.beforeOperand ∈ additiveStates)).lands under

theorem enclosed {value : Expression} {words : List Token}
    (inner : Followed (.expression value) words) :
    Followed (.primary value) (.mark .leftParen :: words ++ [.mark .rightParen]) := by
  intro stack left under
  rw [List.append_assoc]
  exact (inner (⟨.beforeOperand, .token (.mark .leftParen)⟩ :: stack) (.mark .rightParen) left
    (by decide : State.beforeOperand ∈ expressionStates) (by decide)).lands under

/-- An argument becomes complete at the mark after it. -/
theorem argument {value : Expression} {words : List Token}
    (inner : Followed (.expression value) words) (stack : List Entry) (token : Token)
    (left : List Token) (before : stateOf stack = .beforeArgument)
    (ends : tokenKind token ∈ [.mark .comma, .mark .rightParen]) :
    Leads (reads stack (words ++ token :: left))
      (reads (⟨.afterArgument, .node (.expression value true)⟩ :: stack) (token :: left)) := by
  have marks : ∀ kind ∈ [.mark .comma, .mark .rightParen], kind ∈ expressionEnds := by decide
  have inside : stateOf stack ∈ expressionStates := by
    rw [before]
    decide
  have sums := inner stack token left inside (List.mem_cons_of_mem _ (marks _ ends))
  refine (sums.completes inside (marks _ ends) fun first => ?_).trans (leads_place ?_)
  · rw [before] at first
    cases first
  · rw [before]
    rfl

theorem call {callee : String} {calleeWords words : List Token}
    {arguments : List (Expression × List Token)} (named : Followed (.name callee) calleeWords)
    (each : ∀ argument ∈ arguments, Followed (.expression argument.1) argument.2)
    (list : Separated (arguments.map Prod.snd) words) :
    Followed (.primary (.call callee (arguments.map Prod.fst)))
      (calleeWords ++ .mark .leftParen :: words ++ [.mark .rightParen]) := by
  intro stack left under
  obtain ⟨symbol, next, after, operand, -, leads⟩ :=
    (named stack (.mark .leftParen :: (words ++ .mark .rightParen :: left)) under).target under
      exists_shift
  have opens : ∀ state ∈ calleeStates,
      action? state (.mark .leftParen) = some (.shift .beforeArgument) := by decide
  obtain ⟨more, above, listed, entered⟩ :=
    leads_list argumentList (.token (.mark .leftParen)) (⟨next, symbol⟩ :: stack)
      (.mark .rightParen) left list rfl fun argument mem => (each argument mem).argument
  have reduces : action? (stateOf (above ++
      ⟨.beforeArgument, .token (.mark .leftParen)⟩ :: ⟨next, symbol⟩ :: stack))
      (.mark .rightParen) = some (.reduce .callExpression) :=
    listed.action?_append _ _ rfl rfl
  refine .of_node under (by decide : Kind.callExpression ∈ operandKinds) ?_
  rw [List.append_assoc, List.append_assoc]
  refine (leads.trans (leads_shift (opens next after))).trans (entered.trans ?_)
  exact leads_reduce [.mark .rightParen] reduces (.callExpression listed operand after under) rfl rfl

theorem unsigned {value : Expression} {words : List Token} (inner : Followed (.primary value) words) :
    Followed (.unary value) words := by
  intro stack token left under ends
  exact inner stack (token :: left) under

theorem signed {op : BinaryOperator} {sign : UnaryOperator} {operand : Expression}
    {words : List Token} (signs : Signs op sign) (inner : Followed (.unary operand) words) :
    Followed (.unary (.unary sign operand)) (.operator op :: words) := by
  intro stack token left under ends
  have additive : op.operatorClass = .additive := by cases signs <;> rfl
  obtain rfl : (if op = .subtract then .negate else .plus) = sign := by cases signs <;> rfl
  have shifts : action? (stateOf stack) (tokenKind (.operator op)) =
      some (.shift .afterUnaryOperator) := by
    have all : ∀ state ∈ operandStates,
        action? state (.operator .additive) = some (.shift .afterUnaryOperator) := by decide
    rw [tokenKind, additive]
    exact all _ under
  have lands := inner (⟨.afterUnaryOperator, .token (.operator op)⟩ :: stack) token left
    (by decide : State.afterUnaryOperator ∈ operandStates) ends
  obtain ⟨symbol, on, leads⟩ :=
    lands.only_target .afterUnaryOperator .afterUnaryOperand rfl (by decide)
  have reduces : ∀ kind ∈ operandEnds,
      action? .afterUnaryOperand kind = some (.reduce .unaryExpression) := by decide
  refine .of_node under (by decide : Kind.unaryExpression ∈ operandKinds) ?_
  refine ((leads_shift shifts).trans leads).trans ?_
  exact leads_reduce [] (reduces _ ends) (.unaryExpression on additive under) rfl rfl

theorem factor {value : Expression} {words : List Token} (inner : Followed (.unary value) words) :
    Followed (.term value) words := by
  intro stack token left under ends
  exact inner stack token left (additiveStates_subset _ under) ends

theorem product {op : BinaryOperator} {left right : Expression} {leftWords rightWords : List Token}
    (onLeft : Followed (.term left) leftWords) (multiplicative : op.operatorClass = .multiplicative)
    (onRight : Followed (.unary right) rightWords) :
    Followed (.term (.binary op left right)) (leftWords ++ .operator op :: rightWords) := by
  intro stack token rest under ends
  have opKind : tokenKind (.operator op) = .operator .multiplicative := by
    rw [tokenKind, multiplicative]
  obtain ⟨leftSymbol, next, after, leftOperand, -, leads⟩ :=
    (onLeft stack (.operator op) (rightWords ++ token :: rest) under
      (by rw [opKind]; decide)).target under exists_shift_additive
  have shifts : action? next (tokenKind (.operator op)) =
      some (.shift .afterMultiplicativeOperator) := by
    have all : ∀ state ∈ summandStates, action? state (.operator .multiplicative) =
        some (.shift .afterMultiplicativeOperator) := by decide
    rw [opKind]
    exact all _ after
  have lands :=
    onRight (⟨.afterMultiplicativeOperator, .token (.operator op)⟩ :: ⟨next, leftSymbol⟩ :: stack)
      token rest (by decide : State.afterMultiplicativeOperator ∈ operandStates) ends
  obtain ⟨rightSymbol, rightOperand, leads'⟩ :=
    lands.only_target .afterMultiplicativeOperator .afterMultiplicativeOperand rfl (by decide)
  have reduces : ∀ kind ∈ operandEnds,
      action? .afterMultiplicativeOperand kind = some (.reduce .term) := by decide
  refine .of_node (additiveStates_subset _ under)
    (by decide : Kind.binaryExpression ∈ operandKinds) ?_
  rw [List.append_assoc]
  refine (leads.trans (leads_shift shifts)).trans (leads'.trans ?_)
  exact leads_reduce [] (reduces _ ends)
    (.term leftOperand multiplicative rightOperand after under) rfl rfl

theorem summand {value : Expression} {words : List Token} (inner : Followed (.term value) words) :
    Followed (.expression value) words := by
  intro stack token left under ends
  have operandEnd : ∀ kind ∈ .operator .additive :: expressionEnds, kind ∈ operandEnds := by decide
  exact (inner stack token left (expressionStates_subset _ under) (operandEnd _ ends)).sums
    (expressionStates_subset _ under)

theorem sum {op : BinaryOperator} {left right : Expression} {leftWords rightWords : List Token}
    (onLeft : Followed (.expression left) leftWords) (additive : op.operatorClass = .additive)
    (onRight : Followed (.term right) rightWords) :
    Followed (.expression (.binary op left right)) (leftWords ++ .operator op :: rightWords) := by
  intro stack token rest under ends
  have opKind : tokenKind (.operator op) = .operator .additive := by rw [tokenKind, additive]
  have operandEnd : ∀ kind ∈ .operator .additive :: expressionEnds, kind ∈ operandEnds := by decide
  obtain ⟨chain, sum, -, leads⟩ :=
    onLeft stack (.operator op) (rightWords ++ token :: rest) under
      (by rw [opKind]; exact List.mem_cons_self ..)
  have shifts : action? (stateOf (chain ++ stack)) (tokenKind (.operator op)) =
      some (.shift .afterAdditiveOperator) := by
    have all : ∀ state ∈ summandStates,
        action? state (.operator .additive) = some (.shift .afterAdditiveOperator) := by decide
    rw [opKind]
    exact all _ (sum.stateOf_mem stack)
  have lands :=
    onRight (⟨.afterAdditiveOperator, .token (.operator op)⟩ :: (chain ++ stack)) token rest
      (by decide : State.afterAdditiveOperator ∈ additiveStates) (operandEnd _ ends)
  obtain ⟨symbol, operand, leads'⟩ :=
    lands.only_target .afterAdditiveOperator .afterAdditiveOperand rfl (by decide)
  refine ⟨_, .next sum additive operand, ?_, ?_⟩
  · intro identifier
    cases identifier
  · rw [List.append_assoc]
    exact (leads.trans (leads_shift shifts)).trans leads'

/-- An expression becomes complete at a semicolon. -/
theorem completes {value : Expression} {words : List Token} (state : State)
    (inner : Followed (.expression value) words) {stack : List Entry} {left : List Token}
    (eq : stateOf stack = state) (under : state ∈ expressionStates) :
    Leads (reads stack (words ++ .mark .semicolon :: left))
      (places stack (.mark .semicolon :: left) (.expression value true)) := by
  subst eq
  exact (inner stack (.mark .semicolon) left under (by decide)).completes under (by decide)
    fun _ => rfl

/-- A statement that is built is put on the stack. -/
theorem leads_statement {stack : List Entry} {left : List Token} (value : Statement)
    (under : stateOf stack = .beforeStatement) :
    Leads (places stack left (.statement value))
      (reads (⟨.beforeStatement, .node (.statement value)⟩ :: stack) left) := by
  refine leads_place ?_
  rw [under]
  cases value <;> rfl

/-- An expression that is put on the stack before a semicolon becomes a statement. -/
theorem leads_expressionStatement {stack : List Entry} {left : List Token} {value : Expression}
    {complete : Bool} (under : stateOf stack = .beforeStatement) :
    Leads
      (reads (⟨.afterExpression, .node (.expression value complete)⟩ :: stack)
        (.mark .semicolon :: left))
      (reads (⟨.beforeStatement, .node (.statement (.expression value))⟩ :: stack) left) :=
  (leads_reduce [.mark .semicolon] rfl (.expressionStatement under) rfl rfl).trans
    (leads_statement _ under)

theorem declaration {declaration : FunctionDeclaration} {words : List Token}
    (function : Followed (.function declaration) words) :
    Followed (.statement (.function declaration.name declaration.params declaration.body))
      words := by
  intro stack left under
  exact (function stack left (by rw [under]; decide)).trans (leads_statement _ under)

theorem uninitialized (name : String) :
    Followed (.statement (.variableDeclaration name none))
      [.keyword .varKeyword, .identifier name, .mark .semicolon] := by
  intro stack left under
  refine (leads_shift (by rw [under]; rfl)).trans <| (leads_shift rfl).trans ?_
  exact (leads_reduce [.mark .semicolon] rfl (.variableDeclaration under) rfl rfl).trans
    (leads_statement _ under)

theorem initialized {name : String} {value : Expression} {words : List Token}
    (init : Followed (.expression value) words) :
    Followed (.statement (.variableDeclaration name (some value)))
      (.keyword .varKeyword :: .identifier name :: .mark .assign :: words ++
        [.mark .semicolon]) := by
  intro stack left under
  rw [List.append_assoc]
  refine (leads_shift (by rw [under]; rfl)).trans <| (leads_shift rfl).trans <|
    (leads_shift rfl).trans ?_
  refine (init.completes .beforeInit (by rfl) (by decide)).trans ?_
  exact (leads_join [.mark .semicolon] rfl (.initialized under) rfl rfl).trans
    (leads_statement _ under)

theorem evaluation {value : Expression} {words : List Token}
    (inner : Followed (.expression value) words) :
    Followed (.statement (.expression value)) (words ++ [.mark .semicolon]) := by
  intro stack left under
  rw [List.append_assoc]
  refine (inner.completes .beforeStatement under (by decide)).trans ?_
  exact (leads_place (by rw [under]; rfl)).trans (leads_expressionStatement under)

theorem assignment {target : String} {value : Expression} {targetWords words : List Token}
    (named : Followed (.name target) targetWords) (inner : Followed (.expression value) words) :
    Followed (.statement (.expression (.assign target value)))
      (targetWords ++ .mark .assign :: words ++ [.mark .semicolon]) := by
  intro stack left under
  obtain ⟨symbol, next, operand, shifts, leads⟩ :=
    named stack (.mark .assign :: (words ++ .mark .semicolon :: left)) (by rw [under]; decide)
  obtain rfl : next = .afterIdentifier := by
    rw [under] at shifts
    cases shifts
    rfl
  rw [List.append_assoc, List.append_assoc]
  refine leads.trans <| (leads_shift rfl).trans <|
    (inner.completes .beforeAssignmentRight (by rfl) (by decide)).trans ?_
  refine (leads_join [] rfl (.assignmentExpression operand under) rfl rfl).trans ?_
  exact (leads_place (by rw [under]; rfl)).trans (leads_expressionStatement under)

theorem result {value : Expression} {words : List Token}
    (inner : Followed (.expression value) words) :
    Followed (.statement (.returnValue value))
      (.keyword .returnKeyword :: words ++ [.mark .semicolon]) := by
  intro stack left under
  rw [List.append_assoc]
  refine (leads_shift (by rw [under]; rfl)).trans <|
    (inner.completes .afterReturnKeyword (by rfl) (by decide)).trans ?_
  exact (leads_join [.mark .semicolon] rfl (.returnStatement under) rfl rfl).trans
    (leads_statement _ under)

theorem exportFunction {declaration : FunctionDeclaration} {words : List Token}
    (function : Followed (.function declaration) words) :
    Followed (.statement (.exportFunction declaration.name declaration.params declaration.body))
      (.keyword .exportKeyword :: words) := by
  intro stack left under
  refine (leads_shift (by rw [under]; rfl)).trans ?_
  refine (function (⟨.afterExportKeyword, .token (.keyword .exportKeyword)⟩ :: stack) left
    (List.mem_cons_of_mem _ (List.mem_singleton_self _))).trans ?_
  exact (leads_join [] rfl (.exportFunction under) rfl rfl).trans (leads_statement _ under)

theorem operand_of_atom {token : Token} {value : Expression} (atom : Atom token value) :
    Operand (.token token) value := by
  cases atom with
  | name name => exact .name name
  | number value => exact .number value

theorem choice {leftToken rightToken : Token} {left right : Expression} {op : BinaryOperator}
    {consequent alternate : List Statement} {consequentWords alternateWords : List Token}
    (onLeft : Atom leftToken left) (relational : op.operatorClass = .relational)
    (onRight : Atom rightToken right) (first : Followed (.block consequent) consequentWords)
    (second : Followed (.block alternate) alternateWords) :
    Followed (.statement (.ifElse (.binary op left right) consequent alternate))
      (.keyword .ifKeyword :: .mark .leftParen :: leftToken :: .operator op :: rightToken ::
        .mark .rightParen :: consequentWords ++ .keyword .elseKeyword :: alternateWords) := by
  intro stack rest under
  have shiftsLeft : action? .beforeTestOperand (tokenKind leftToken) =
      some (.shift .afterTestOperand) := by cases onLeft <;> rfl
  have shiftsRight : action? .afterRelationalOperator (tokenKind rightToken) =
      some (.shift .afterComparison) := by cases onRight <;> rfl
  have shiftsOperator : action? .afterTestOperand (tokenKind (.operator op)) =
      some (.shift .afterRelationalOperator) := by
    rw [tokenKind, relational]
    rfl
  rw [List.append_assoc]
  -- the comparison, up to its closing parenthesis
  refine (leads_shift (by rw [under]; rfl)).trans <| (leads_shift rfl).trans <|
    (leads_shift (by exact shiftsLeft)).trans <| (leads_shift (by exact shiftsOperator)).trans <|
    (leads_shift (by exact shiftsRight)).trans ?_
  refine (leads_reduce [.mark .rightParen] rfl
    (.test (operand_of_atom onLeft) relational (operand_of_atom onRight) rfl) rfl rfl).trans ?_
  -- the two blocks
  refine (leads_place (by rfl)).trans <| (first _ _ (by simp [stateOf])).trans <|
    (leads_place (by rfl)).trans <| (leads_shift (by rfl)).trans <|
    (second _ _ (by simp [stateOf])).trans ?_
  exact (leads_join [] rfl (.ifStatement under) rfl rfl).trans (leads_statement _ under)

/-- A member of an export is built at the mark after it. -/
theorem specifier {specifier : ExportSpecifier} {words : List Token}
    (specifies : Specifies specifier words) (stack : List Entry) (token : Token)
    (left : List Token) (before : stateOf stack = .beforeLocalName)
    (ends : tokenKind token ∈ [.mark .comma, .mark .rightBrace]) :
    Leads (reads stack (words ++ token :: left))
      (reads (⟨.afterExportSpecifier, .node (.exportSpecifier specifier)⟩ :: stack)
        (token :: left)) := by
  have reduces : ∀ kind ∈ [.mark .comma, .mark .rightBrace],
      action? .afterLocalName kind = some (.reduce .exportSpecifier) ∧
        action? .afterExportedName kind = some (.reduce .exportSpecifier) := by decide
  obtain ⟨plain, renamed⟩ := reduces _ ends
  cases specifies with
  | plain name =>
    refine (leads_shift (by rw [before]; rfl)).trans ?_
    refine (leads_reduce [] (by exact plain) (.exportSpecifier before) rfl rfl).trans (leads_place ?_)
    rw [before]
    rfl
  | renamed localName exportedName =>
    refine (leads_shift (by rw [before]; rfl)).trans <| (leads_shift rfl).trans <|
      (leads_shift rfl).trans ?_
    refine (leads_reduce [] (by exact renamed) (.renamed before) rfl rfl).trans (leads_place ?_)
    rw [before]
    rfl

theorem exportList {specifiers : List (ExportSpecifier × List Token)} {words : List Token}
    (each : ∀ specifier ∈ specifiers, Specifies specifier.1 specifier.2)
    (list : Separated (specifiers.map Prod.snd) words) :
    Followed (.statement (.exportSpecifiers (specifiers.map Prod.fst)))
      (.keyword .exportKeyword :: .mark .leftBrace :: words ++
        [.mark .rightBrace, .mark .semicolon]) := by
  intro stack left under
  obtain ⟨more, above, listed, entered⟩ :=
    leads_list specifierList (.token (.mark .leftBrace))
      (⟨.afterExportKeyword, .token (.keyword .exportKeyword)⟩ :: stack) (.mark .rightBrace)
      (.mark .semicolon :: left) list rfl fun item mem => specifier (each item mem)
  rw [List.append_assoc]
  refine (leads_shift (by rw [under]; rfl)).trans <| (leads_shift rfl).trans <| entered.trans ?_
  refine (leads_reduce [.mark .rightBrace, .mark .semicolon] (listed.action?_append _ _ rfl rfl)
    (.exportSpecifiers listed rfl) rfl rfl).trans ?_
  exact (leads_join [] rfl (.exportList under) rfl rfl).trans (leads_statement _ under)

/-- Statements one after the other. -/
theorem leads_statements {statements : List (Statement × List Token)} (bottom : List Entry)
    (each : ∀ statement ∈ statements, Followed (.statement statement.1) statement.2)
    (under : stateOf bottom = .beforeStatement) (body : List Statement) (left : List Token) :
    Leads (reads (statementEntries body ++ bottom) ((statements.map Prod.snd).flatten ++ left))
      (reads (statementEntries (body ++ statements.map Prod.fst) ++ bottom) left) := by
  induction statements generalizing body with
  | nil =>
    rw [List.map_nil, List.map_nil, List.append_nil]
    exact .refl
  | cons statement statements ih =>
    have before : stateOf (statementEntries body ++ bottom) = .beforeStatement := by
      unfold statementEntries
      cases body.reverse with
      | nil => exact under
      | cons last rest => rfl
    have first := each statement (List.mem_cons_self ..) (statementEntries body ++ bottom)
      ((statements.map Prod.snd).flatten ++ left) before
    have more := ih (fun statement mem => each statement (List.mem_cons_of_mem _ mem))
      (body ++ [statement.1])
    rw [statementEntries_concat, List.append_assoc] at more
    rw [List.map_cons, List.flatten_cons, List.append_assoc]
    exact first.trans more

theorem block {statements : List (Statement × List Token)}
    (each : ∀ statement ∈ statements, Followed (.statement statement.1) statement.2) :
    Followed (.block (statements.map Prod.fst))
      (.mark .leftBrace :: (statements.map Prod.snd).flatten ++ [.mark .rightBrace]) := by
  intro stack left under
  have opens : ∀ state ∈ [.beforeBody, .beforeConsequent, .beforeAlternate],
      action? state (.mark .leftBrace) = some (.shift .beforeStatement) := by decide
  rw [List.append_assoc]
  refine (leads_shift (opens _ under)).trans ?_
  refine (leads_statements _ each (by rfl) [] (.mark .rightBrace :: left)).trans ?_
  refine leads_reduce [.mark .rightBrace] ?_ (.block under) rfl rfl
  rw [stateOf_statementEntries]
  rfl

theorem function {name : String} {params : List String} {body : List Statement}
    {paramWords bodyWords : List Token}
    (list : Separated (params.map fun param => [.identifier param]) paramWords)
    (block : Followed (.block body) bodyWords) :
    Followed (.function ⟨name, params, body⟩)
      (.keyword .function :: .identifier name :: .mark .leftParen :: paramWords ++
        .mark .rightParen :: bodyWords) := by
  intro stack left under
  have shifts : ∀ state ∈ [.beforeStatement, .afterExportKeyword],
      action? state (.keyword .function) = some (.shift .afterFunctionKeyword) := by decide
  have list' : Separated ((params.map fun param => (param, [Token.identifier param])).map Prod.snd)
      paramWords := by
    rw [List.map_map]
    exact list
  obtain ⟨more, above, listed, entered⟩ :=
    leads_list paramList (.token (.mark .leftParen))
      (⟨.afterFunctionName, .token (.identifier name)⟩ ::
        ⟨.afterFunctionKeyword, .token (.keyword .function)⟩ :: stack) (.mark .rightParen)
      (bodyWords ++ left) list' rfl fun item mem stack token left before _ => by
        obtain ⟨param, -, rfl⟩ := List.mem_map.1 mem
        refine leads_shift ?_
        rw [before]
        rfl
  rw [List.map_map, show Prod.fst ∘ (fun param => (param, [Token.identifier param])) = id from rfl,
    List.map_id] at listed
  rw [List.append_assoc]
  refine (leads_shift (shifts _ under)).trans <| (leads_shift rfl).trans <|
    (leads_shift rfl).trans <| entered.trans ?_
  refine (leads_reduce [.mark .rightParen] (listed.action?_append _ _ rfl rfl) (.params listed rfl)
    rfl rfl).trans <| (leads_place (by rfl)).trans <| (block _ left (by simp [stateOf])).trans ?_
  exact leads_join [] rfl (.functionDeclaration under) rfl rfl

end Followed

/-- **The automaton reads what a phrase is written with as this phrase.** -/
theorem followed_of_derives {phrase : Phrase} {words : List Token} (h : Derives phrase words) :
    Followed phrase words := by
  induction h with
  | identifier name => exact .identifier name
  | enclosedName inner ih => exact .enclosedName ih
  | number value => exact .number value
  | reading inner ih => exact ih
  | enclosed inner ih => exact .enclosed ih
  | call named each list ihNamed ihEach => exact .call ihNamed ihEach list
  | signed signs inner ih => exact .signed signs ih
  | unsigned inner ih => exact .unsigned ih
  | factor inner ih => exact .factor ih
  | product onLeft multiplicative onRight ihLeft ihRight =>
    exact .product ihLeft multiplicative ihRight
  | summand inner ih => exact .summand ih
  | sum onLeft additive onRight ihLeft ihRight => exact .sum ihLeft additive ihRight
  | declaration function ih => exact .declaration ih
  | uninitialized name => exact .uninitialized name
  | initialized init ih => exact .initialized ih
  | evaluation inner ih => exact .evaluation ih
  | assignment named inner ihNamed ih => exact .assignment ihNamed ih
  | choice onLeft relational onRight first second ihFirst ihSecond =>
    exact .choice onLeft relational onRight ihFirst ihSecond
  | result inner ih => exact .result ih
  | exportFunction function ih => exact .exportFunction ih
  | exportList each list => exact .exportList each list
  | block each ih => exact .block ih
  | function list block ih => exact .function list ih

/-! ## 5. Programs -/

theorem Leads.reaches {stage after : Stage} (h : Leads stage after) (sound : stage.Sound) :
    stage.Reaches after := by
  induction h with
  | refl => exact .refl stage
  | tail leads moves ih => exact ih.trans (.of_moves moves (ih.sound sound))

theorem statements?_statementEntries (body : List Statement) :
    statements? (statementEntries body) = some body := by
  unfold statements? statementEntries
  rw [List.map_reverse, List.reverse_reverse]
  induction body with
  | nil => rfl
  | cons statement body ih =>
    rw [List.map_cons, List.mapM_cons, ih]
    rfl

theorem parseScan_eq (tokens : List Token) : parseScan ⟨tokens, none⟩ = (reads [] tokens).run := by
  cases tokens <;> rfl

/-- The run on the tokens of a program puts its statements on the stack. -/
theorem reaches_of_derivedFrom {program : Program} {tokens : List Token}
    (h : program.DerivedFrom tokens) :
    (reads [] tokens).Reaches (reads (statementEntries program.body) []) := by
  obtain ⟨each⟩ := h
  rename_i statements
  have leads := Followed.leads_statements []
    (fun statement mem => followed_of_derives (each statement mem)) rfl [] []
  rw [List.append_nil, List.append_nil, List.append_nil, List.nil_append] at leads
  exact leads.reaches Linked.nil

/-- **Every program is the result of the run on the tokens it is written with.** -/
theorem parseScan_of_derivedFrom {program : Program} {tokens : List Token}
    (h : program.DerivedFrom tokens) : parseScan ⟨tokens, none⟩ = .ok program := by
  have halts : (reads (statementEntries program.body) []).step = .halt (.ok program) := by
    show Step.halt (Config.finish _) = _
    rw [Config.finish, statements?_statementEntries]
  rw [parseScan_eq, (reaches_of_derivedFrom h).run_eq, Stage.run_of_halt halts]

end NumScript.Automaton
