import Mathlib
import NumScript.Proofs.Grammar.Complete

/-!
# The automaton reads exactly the language

What lies on the stack is written with the tokens that were taken, entry by entry (`Spells`). What a
symbol is written with depends on the state under it (`Covers`): where a product can stand, an
operand that is not complete is a product, and under an operator that binds more tightly it is not.
Each move keeps this (`Moves.spelled`), because a handle is the right side of a rule and its node the
left side (`Handle.spells`).

So a run that ends with a program has found a derivation of it. Together with the other direction
this is `parse_eq_ok_iff_derivedFrom`: the automaton accepts exactly the language, with exactly the
trees of the grammar, and no row of tokens has two derivations.
-/

namespace NumScript.Automaton

/-! ## 1. Lists that go on -/

/-- What can be put after the members of a list that were read: another list, or, directly after a
    member, a comma and another list. -/
def Extends : Bool → List (List Token) → List Token → Prop
  | true, members, words =>
    ∀ more rest, Separated more rest → Separated (members ++ more) (words ++ rest)
  | false, members, words => Separated members words ∧
    ∀ more rest, Separated more rest → Separated (members ++ more) (words ++ .mark .comma :: rest)

theorem extends_nil : Extends true [] [] := fun _ _ list => list

theorem Extends.item {members : List (List Token)} {words : List Token}
    (h : Extends true members words) (next : List Token) :
    Extends false (members ++ [next]) (words ++ next) := by
  refine ⟨h [next] next (.last next), ?_⟩
  intro more rest list
  rw [List.append_assoc, List.append_assoc]
  exact h _ _ (.cons next list)

theorem Extends.comma {members : List (List Token)} {words : List Token}
    (h : Extends false members words) : Extends true members (words ++ [.mark .comma]) := by
  intro more rest list
  rw [List.append_assoc]
  exact h.2 more rest list

theorem Extends.separated {more : Bool} {members : List (List Token)} {words : List Token}
    (h : Extends more members words) : Separated members words := by
  cases more with
  | true =>
    have list := h [] [] .nil
    rwa [List.append_nil, List.append_nil] at list
  | false => exact h.1

/-! ## 2. What a symbol is written with -/

/-- What a symbol over this state is written with. -/
inductive Covers : State → Symbol → List Token → Prop
  | token {below : State} (token : Token) : Covers below (.token token) [token]
  | unary {below : State} {value : Expression} {words : List Token}
      (under : below ∈ operandStates) (derives : Derives (.unary value) words) :
      Covers below (.node (.expression value false)) words
  | term {below : State} {value : Expression} {words : List Token}
      (under : below ∈ additiveStates) (derives : Derives (.term value) words) :
      Covers below (.node (.expression value false)) words
  | assignment {target : String} {value : Expression} {targetWords words : List Token}
      (named : Derives (.name target) targetWords) (derives : Derives (.expression value) words) :
      Covers .beforeStatement (.node (.expression (.assign target value) false))
        (targetWords ++ .mark .assign :: words)
  | test {leftToken rightToken : Token} {left right : Expression} {op : BinaryOperator}
      (onLeft : Atom leftToken left) (relational : op.operatorClass = .relational)
      (onRight : Atom rightToken right) :
      Covers .afterIfKeyword (.node (.expression (.binary op left right) false))
        [.mark .leftParen, leftToken, .operator op, rightToken, .mark .rightParen]
  | complete {below : State} {value : Expression} {words : List Token}
      (derives : Derives (.expression value) words) :
      Covers below (.node (.expression value true)) words
  | statement {below : State} {value : Statement} {words : List Token}
      (derives : Derives (.statement value) words) : Covers below (.node (.statement value)) words
  | block {below : State} {body : List Statement} {words : List Token}
      (derives : Derives (.block body) words) : Covers below (.node (.block body)) words
  | params {below : State} {names : List String} {words : List Token}
      (list : Separated (names.map fun name => [.identifier name]) words) :
      Covers below (.node (.params names)) (.mark .leftParen :: words ++ [.mark .rightParen])
  | exportSpecifier {below : State} {specifier : ExportSpecifier} {words : List Token}
      (specifies : Specifies specifier words) : Covers below (.node (.exportSpecifier specifier)) words
  | exportSpecifiers {below : State} {specifiers : List (ExportSpecifier × List Token)}
      {words : List Token} (each : ∀ specifier ∈ specifiers, Specifies specifier.1 specifier.2)
      (list : Separated (specifiers.map Prod.snd) words) :
      Covers below (.node (.exportSpecifiers (specifiers.map Prod.fst)))
        (.mark .leftBrace :: words ++ [.mark .rightBrace, .mark .semicolon])

/-- What a stack is written with, from its lowest entry to its top. -/
inductive Spells : List Entry → List Token → Prop
  | nil : Spells [] []
  | cons {entry : Entry} {rest : List Entry} {before words : List Token}
      (covers : Covers (stateOf rest) entry.symbol words) (spells : Spells rest before) :
      Spells (entry :: rest) (before ++ words)

namespace Covers

variable {below : State} {symbol : Symbol} {value : Expression} {words : List Token}

theorem eq_token {token : Token} (h : Covers below (.token token) words) : words = [token] := by
  cases h
  rfl

theorem derives_complete (h : Covers below (.node (.expression value true)) words) :
    Derives (.expression value) words := by
  cases h with
  | complete derives => exact derives

theorem derives_statement {value : Statement} (h : Covers below (.node (.statement value)) words) :
    Derives (.statement value) words := by
  cases h with
  | statement derives => exact derives

theorem derives_block {body : List Statement} (h : Covers below (.node (.block body)) words) :
    Derives (.block body) words := by
  cases h with
  | block derives => exact derives

theorem specifies {specifier : ExportSpecifier}
    (h : Covers below (.node (.exportSpecifier specifier)) words) : Specifies specifier words := by
  cases h with
  | exportSpecifier specifies => exact specifies

/-- An operand under which only single operands can stand. -/
theorem unary_of_operand (h : Covers below symbol words) (operand : Operand symbol value)
    (under : below ∈ [.afterUnaryOperator, .afterMultiplicativeOperator]) :
    Derives (.unary value) words := by
  cases operand with
  | name name =>
    rw [h.eq_token]
    exact .unsigned (.reading (.identifier name))
  | number value =>
    rw [h.eq_token]
    exact .unsigned (.number value)
  | node kind =>
    cases h with
    | unary _ derives => exact derives
    | term additive derives =>
      have apart : ∀ state ∈ [.afterUnaryOperator, .afterMultiplicativeOperator],
          state ∉ additiveStates := by decide
      exact absurd additive (apart _ under)
    | assignment => exact absurd kind (by decide : Kind.assignmentExpression ∉ operandKinds)
    | test => exact absurd under (by decide)

/-- An operand under which a product can stand. -/
theorem term_of_operand (h : Covers below symbol words) (operand : Operand symbol value)
    (under : below ∈ additiveStates) : Derives (.term value) words := by
  cases operand with
  | name name =>
    rw [h.eq_token]
    exact .factor (.unsigned (.reading (.identifier name)))
  | number value =>
    rw [h.eq_token]
    exact .factor (.unsigned (.number value))
  | node kind =>
    cases h with
    | unary _ derives => exact .factor derives
    | term _ derives => exact derives
    | assignment => exact absurd kind (by decide : Kind.assignmentExpression ∉ operandKinds)
    | test => exact absurd under (by decide)

/-- An operand that is a variable, wherever it stands. -/
theorem name_of_operand {name : String} (h : Covers below symbol words)
    (operand : Operand symbol (.var name)) : Derives (.name name) words := by
  cases operand with
  | name =>
    rw [h.eq_token]
    exact .identifier name
  | node kind =>
    cases h with
    | unary _ derives => exact derives.name_of_var rfl
    | term _ derives => exact derives.name_of_var rfl

/-- An expression before a statement becomes a statement with a semicolon. -/
theorem derives_evaluation {complete : Bool}
    (h : Covers .beforeStatement (.node (.expression value complete)) words) :
    Derives (.statement (.expression value)) (words ++ [.mark .semicolon]) := by
  cases h with
  | unary under derives => exact .evaluation (.summand (.factor derives))
  | term under derives => exact .evaluation (.summand derives)
  | assignment named derives => exact .assignment named derives
  | complete derives => exact .evaluation derives

end Covers

namespace Spells

variable {rest : List Entry} {tokens : List Token}

theorem of_cons {state : State} {symbol : Symbol} (h : Spells (⟨state, symbol⟩ :: rest) tokens) :
    ∃ before words, tokens = before ++ words ∧ Covers (stateOf rest) symbol words ∧
      Spells rest before := by
  cases h with
  | cons covers spells => exact ⟨_, _, rfl, covers, spells⟩

theorem of_token {state : State} {token : Token}
    (h : Spells (⟨state, .token token⟩ :: rest) tokens) :
    ∃ before, tokens = before ++ [token] ∧ Spells rest before := by
  obtain ⟨before, words, rfl, covers, spells⟩ := h.of_cons
  rw [covers.eq_token]
  exact ⟨before, rfl, spells⟩

/-- A sum on the stack is written as an expression. -/
theorem of_chain {chain : List Entry} {value : Expression} (sum : Chain chain value)
    (h : Spells (chain ++ rest) tokens) (under : stateOf rest ∈ expressionStates) :
    ∃ before words, tokens = before ++ words ∧ Derives (.expression value) words ∧
      Spells rest before := by
  induction sum generalizing tokens with
  | first after operand =>
    obtain ⟨before, words, rfl, covers, spells⟩ := h.of_cons
    have derives := covers.term_of_operand operand (expressionStates_subset _ under)
    exact ⟨before, words, rfl, .summand derives, spells⟩
  | @next above left right op symbol sum additive operand ih =>
    obtain ⟨_, rightWords, rfl, covers, spells₁⟩ := h.of_cons
    obtain ⟨_, rfl, spells₂⟩ := spells₁.of_token
    obtain ⟨before, leftWords, rfl, derives, spells⟩ := ih spells₂
    have right := covers.term_of_operand operand (by decide : State.afterAdditiveOperator ∈ _)
    refine ⟨before, leftWords ++ .operator op :: rightWords, ?_, .sum derives additive right, spells⟩
    simp

/-- A list on the stack is written with commas between its members. -/
theorem of_listed {α : Type} {shape : ListShape α} {more : Bool} {above : List Entry}
    {values : List α} {bracket : Token} {P : α → List Token → Prop}
    (list : Listed shape more above values)
    (item : ∀ below value words, Covers below (shape.item value) words → P value words)
    (h : Spells (above ++ ⟨shape.before, .token bracket⟩ :: rest) tokens) :
    ∃ before words, ∃ items : List (α × List Token), tokens = before ++ bracket :: words ∧
      values = items.map Prod.fst ∧ (∀ item ∈ items, P item.1 item.2) ∧
      Extends more (items.map Prod.snd) words ∧ Spells rest before := by
  induction list generalizing tokens with
  | nil =>
    obtain ⟨before, rfl, spells⟩ := h.of_token
    exact ⟨before, [], [], rfl, rfl, fun _ mem => (nomatch mem), extends_nil, spells⟩
  | @item above values value list ih =>
    obtain ⟨_, next, rfl, covers, spells⟩ := h.of_cons
    obtain ⟨before, words, items, rfl, rfl, each, extends', spells⟩ := ih spells
    refine ⟨before, words ++ next, items ++ [(value, next)], by simp, by simp, ?_, ?_, spells⟩
    · have last := item _ value next covers
      exact List.forall_mem_append.2 ⟨each, List.forall_mem_singleton.2 last⟩
    · rw [List.map_append]
      exact extends'.item next
  | comma list ih =>
    obtain ⟨_, rfl, spells⟩ := h.of_token
    obtain ⟨before, words, items, rfl, rfl, each, extends', spells⟩ := ih spells
    exact ⟨before, words ++ [.mark .comma], items, by simp, rfl, each, extends'.comma, spells⟩

/-- Statements on the stack are written one after the other. -/
theorem of_statements {above : List Entry} {body : List Statement}
    (symbols : above.map Entry.symbol = body.reverse.map fun value => .node (.statement value))
    (h : Spells (above ++ rest) tokens) :
    ∃ before, ∃ items : List (Statement × List Token),
      tokens = before ++ (items.map Prod.snd).flatten ∧ body = items.map Prod.fst ∧
      (∀ item ∈ items, Derives (.statement item.1) item.2) ∧ Spells rest before := by
  induction above generalizing body tokens with
  | nil =>
    obtain rfl : body = [] := by simpa using symbols.symm
    exact ⟨tokens, [], (List.append_nil _).symm, rfl, fun _ mem => (nomatch mem), h⟩
  | cons entry above ih =>
    obtain ⟨body, last, rfl⟩ : ∃ first last, body = first ++ [last] := by
      rcases List.eq_nil_or_concat body with rfl | ⟨first, last, rfl⟩
      · cases symbols
      · exact ⟨first, last, List.concat_eq_append⟩
    simp only [List.map_cons, List.reverse_append, List.reverse_cons, List.reverse_nil,
      List.nil_append, List.singleton_append, List.cons.injEq] at symbols
    obtain ⟨state, symbol⟩ := entry
    obtain ⟨rfl, symbols⟩ : symbol = _ ∧ _ := symbols
    obtain ⟨_, next, rfl, covers, spells⟩ := h.of_cons
    obtain ⟨before, items, rfl, rfl, each, spells⟩ := ih symbols spells
    refine ⟨before, items ++ [(last, next)], by simp, by simp, ?_, spells⟩
    exact List.forall_mem_append.2 ⟨each, List.forall_mem_singleton.2 covers.derives_statement⟩

end Spells

/-! ## 3. Handles are right sides of rules -/

/-- What the incoming node is written with; nothing if none comes in. -/
def Comes (below : State) : Option Node → List Token → Prop
  | none, words => words = []
  | some node, words => Covers below (.node node) words

/-- Tokens of the kinds of marks are these marks. -/
theorem eq_marks (signs : List Mark) {taken : List Token}
    (h : taken.map tokenKind = signs.map .mark) : taken = signs.map .mark := by
  induction signs generalizing taken with
  | nil => exact List.map_eq_nil_iff.1 h
  | cons sign signs ih =>
    cases taken with
    | nil => cases h
    | cons token taken =>
      obtain ⟨first, rest⟩ := List.cons.inj h
      rw [Symbol.eq_mark first, ih rest]
      rfl

theorem signs_of_additive {op : BinaryOperator} (additive : op.operatorClass = .additive) :
    Signs op (if op = .subtract then .negate else .plus) := by
  cases op with
  | add => exact .plus
  | subtract => exact .minus
  | _ => cases additive

theorem atom_of_operand {token : Token} {value : Expression} (h : Operand (.token token) value) :
    Atom token value := by
  cases h with
  | name name => exact .name name
  | number value => exact .number value

theorem symbols_statementEntries (body : List Statement) :
    (statementEntries body).map Entry.symbol =
      body.reverse.map fun value => .node (.statement value) := by
  unfold statementEntries
  rw [List.map_map]
  rfl

/-- **A handle is the right side of a rule, and its node the left side.** -/
theorem Handle.spells {reduction : Reduction} {incoming : Option Node} {stack rest : List Entry}
    {node : Node} {tokens words taken : List Token}
    (h : Handle reduction incoming stack node rest) (spells : Spells stack tokens)
    (comes : Comes (stateOf stack) incoming words)
    (absorbed : taken.map tokenKind = reduction.absorbed) :
    ∃ before covered, tokens ++ words ++ taken = before ++ covered ∧
      Covers (stateOf rest) (.node node) covered ∧ Spells rest before := by
  cases h with
  | @term leftSymbol rightSymbol left right op state rest onLeft multiplicative onRight after under =>
    obtain rfl : words = [] := comes
    obtain rfl := eq_marks [] absorbed
    obtain ⟨_, rightWords, rfl, right, spells₁⟩ := spells.of_cons
    obtain ⟨_, rfl, spells₂⟩ := spells₁.of_token
    obtain ⟨before, leftWords, rfl, left, spells₃⟩ := spells₂.of_cons
    have product := Derives.product (left.term_of_operand onLeft under) multiplicative
      (right.unary_of_operand onRight (by simp [stateOf]))
    exact ⟨before, _, by simp, .term under product, spells₃⟩
  | fullExpression sum under =>
    obtain rfl : words = [] := comes
    obtain rfl := eq_marks [] absorbed
    obtain ⟨before, sumWords, rfl, derives, spells₁⟩ := spells.of_chain sum under
    exact ⟨before, sumWords, by simp, .complete derives, spells₁⟩
  | parenthesized operand under =>
    obtain rfl := eq_marks [.rightParen] absorbed
    obtain ⟨before, rfl, spells₁⟩ := spells.of_token
    have enclosed := Derives.enclosed (Covers.derives_complete comes)
    exact ⟨before, _, by simp, .unary under (.unsigned enclosed), spells₁⟩
  | unaryExpression on additive under =>
    obtain rfl : words = [] := comes
    obtain rfl := eq_marks [] absorbed
    obtain ⟨_, operandWords, rfl, operand, spells₁⟩ := spells.of_cons
    obtain ⟨before, rfl, spells₂⟩ := spells₁.of_token
    have signed := Derives.signed (signs_of_additive additive)
      (operand.unary_of_operand on (by simp [stateOf]))
    exact ⟨before, _, by simp, .unary under signed, spells₂⟩
  | callExpression list named after under =>
    obtain rfl : words = [] := comes
    obtain rfl := eq_marks [.rightParen] absorbed
    obtain ⟨_, inner, arguments, rfl, rfl, each, extends', spells₁⟩ :=
      spells.of_listed list fun _ _ _ covers => covers.derives_complete
    obtain ⟨before, calleeWords, rfl, callee, spells₂⟩ := spells₁.of_cons
    have call := Derives.call (callee.name_of_operand named) each extends'.separated
    exact ⟨before, _, by simp, .unary under (.unsigned call), spells₂⟩
  | assignmentExpression named under =>
    obtain rfl := eq_marks [] absorbed
    obtain ⟨_, rfl, spells₁⟩ := spells.of_token
    obtain ⟨before, targetWords, rfl, target, spells₂⟩ := spells₁.of_cons
    have derives := Covers.derives_complete comes
    rw [under]
    exact ⟨before, _, by simp, .assignment (target.name_of_operand named) derives, spells₂⟩
  | expressionStatement under =>
    obtain rfl : words = [] := comes
    obtain rfl := eq_marks [.semicolon] absorbed
    obtain ⟨before, valueWords, rfl, value, spells₁⟩ := spells.of_cons
    rw [under] at value
    exact ⟨before, _, by simp, .statement value.derives_evaluation, spells₁⟩
  | variableDeclaration under =>
    obtain rfl : words = [] := comes
    obtain rfl := eq_marks [.semicolon] absorbed
    obtain ⟨_, rfl, spells₁⟩ := spells.of_token
    obtain ⟨before, rfl, spells₂⟩ := spells₁.of_token
    exact ⟨before, _, by simp, .statement (.uninitialized _), spells₂⟩
  | initialized under =>
    obtain rfl := eq_marks [.semicolon] absorbed
    obtain ⟨_, rfl, spells₁⟩ := spells.of_token
    obtain ⟨_, rfl, spells₂⟩ := spells₁.of_token
    obtain ⟨before, rfl, spells₃⟩ := spells₂.of_token
    have derives := Covers.derives_complete comes
    exact ⟨before, _, by simp, .statement (.initialized derives), spells₃⟩
  | params list under =>
    obtain rfl : words = [] := comes
    obtain rfl := eq_marks [.rightParen] absorbed
    obtain ⟨before, inner, names, rfl, rfl, each, extends', spells₁⟩ :=
      spells.of_listed (P := fun name words => words = [.identifier name]) list
        fun _ _ _ covers => covers.eq_token
    have plain : names.map Prod.snd = (names.map Prod.fst).map fun name => [.identifier name] := by
      rw [List.map_map]
      exact List.map_congr_left each
    have separated := extends'.separated
    rw [plain] at separated
    exact ⟨before, _, by simp, .params separated, spells₁⟩
  | @functionDeclaration name params body rest under =>
    obtain rfl := eq_marks [] absorbed
    obtain ⟨_, paramWords, rfl, covers, spells₁⟩ := spells.of_cons
    obtain ⟨_, rfl, spells₂⟩ := spells₁.of_token
    obtain ⟨before, rfl, spells₃⟩ := spells₂.of_token
    cases covers with
    | params list =>
      have function : Derives (.function ⟨name, params, body⟩) _ :=
        .function list (Covers.derives_block comes)
      exact ⟨before, _, by simp, .statement (.declaration function), spells₃⟩
  | test onLeft relational onRight under =>
    obtain rfl : words = [] := comes
    obtain rfl := eq_marks [.rightParen] absorbed
    obtain ⟨_, rfl, spells₁⟩ := spells.of_token
    obtain ⟨_, rfl, spells₂⟩ := spells₁.of_token
    obtain ⟨_, rfl, spells₃⟩ := spells₂.of_token
    obtain ⟨before, rfl, spells₄⟩ := spells₃.of_token
    rw [under]
    exact ⟨before, _, by simp, .test (atom_of_operand onLeft) relational (atom_of_operand onRight),
      spells₄⟩
  | ifStatement under =>
    obtain rfl := eq_marks [] absorbed
    obtain ⟨_, rfl, spells₁⟩ := spells.of_token
    obtain ⟨_, consequentWords, rfl, consequent, spells₂⟩ := spells₁.of_cons
    obtain ⟨_, testWords, rfl, test, spells₃⟩ := spells₂.of_cons
    obtain ⟨before, rfl, spells₄⟩ := spells₃.of_token
    have alternate := Covers.derives_block comes
    -- after `if` an expression that is not complete can only be a comparison
    cases test with
    | unary operand => exact absurd operand (by decide : State.afterIfKeyword ∉ operandStates)
    | term additive => exact absurd additive (by decide : State.afterIfKeyword ∉ additiveStates)
    | test onLeft relational onRight =>
      have choice := Derives.choice onLeft relational onRight consequent.derives_block alternate
      exact ⟨before, _, by simp, .statement choice, spells₄⟩
  | returnStatement under =>
    obtain rfl := eq_marks [.semicolon] absorbed
    obtain ⟨before, rfl, spells₁⟩ := spells.of_token
    have derives := Covers.derives_complete comes
    exact ⟨before, _, by simp, .statement (.result derives), spells₁⟩
  | @block body rest under =>
    obtain rfl : words = [] := comes
    obtain rfl := eq_marks [.rightBrace] absorbed
    obtain ⟨_, statements, rfl, rfl, each, spells₁⟩ :=
      spells.of_statements (symbols_statementEntries body)
    obtain ⟨before, rfl, spells₂⟩ := spells₁.of_token
    exact ⟨before, _, by simp, .block (.block each), spells₂⟩
  | exportSpecifier under =>
    obtain rfl : words = [] := comes
    obtain rfl := eq_marks [] absorbed
    obtain ⟨before, rfl, spells₁⟩ := spells.of_token
    exact ⟨before, _, by simp, .exportSpecifier (.plain _), spells₁⟩
  | renamed under =>
    obtain rfl : words = [] := comes
    obtain rfl := eq_marks [] absorbed
    obtain ⟨_, rfl, spells₁⟩ := spells.of_token
    obtain ⟨_, rfl, spells₂⟩ := spells₁.of_token
    obtain ⟨before, rfl, spells₃⟩ := spells₂.of_token
    exact ⟨before, _, by simp, .exportSpecifier (.renamed _ _), spells₃⟩
  | exportSpecifiers list under =>
    obtain rfl : words = [] := comes
    obtain rfl := eq_marks [.rightBrace, .semicolon] absorbed
    obtain ⟨before, inner, specifiers, rfl, rfl, each, extends', spells₁⟩ :=
      spells.of_listed list fun _ _ _ covers => covers.specifies
    exact ⟨before, _, by simp, .exportSpecifiers each extends'.separated, spells₁⟩
  | exportFunction under =>
    obtain rfl := eq_marks [] absorbed
    obtain ⟨before, rfl, spells₁⟩ := spells.of_token
    have statement := Covers.derives_statement comes
    cases statement with
    | declaration function =>
      exact ⟨before, _, by simp, .statement (.exportFunction function), spells₁⟩
  | exportList under =>
    obtain rfl := eq_marks [] absorbed
    obtain ⟨before, rfl, spells₁⟩ := spells.of_token
    cases comes with
    | exportSpecifiers each list =>
      exact ⟨before, _, by simp, .statement (.exportList each list), spells₁⟩

/-! ## 4. Runs -/

/-- Tokens that can be taken are the first ones of the input. -/
theorem Absorbs.exists_taken {kinds : List Kind} {input left : Scan} (h : Absorbs kinds input left) :
    ∃ taken, taken.map tokenKind = kinds ∧ input.tokens = taken ++ left.tokens := by
  induction h with
  | nil input => exact ⟨[], rfl, rfl⟩
  | @cons kind kinds token tokens stop left same readable rest ih =>
    obtain ⟨taken, rfl, eq⟩ := ih
    exact ⟨token :: taken, by rw [List.map_cons, same], congrArg (token :: ·) eq⟩

namespace Stage

/-- The stack and the rest of the input make up these tokens. -/
def Spelled (tokens : List Token) : Stage → Prop
  | .reading config => ∃ before, Spells config.stack before ∧ tokens = before ++ config.input.tokens
  | .placing config node => ∃ before words, Spells config.stack before ∧
    Covers (stateOf config.stack) (.node node) words ∧
    tokens = before ++ words ++ config.input.tokens

/-- A move keeps what the stack is written with. -/
theorem Moves.spelled {tokens : List Token} {stage after : Stage} (h : Moves stage after)
    (spelled : stage.Spelled tokens) : after.Spelled tokens := by
  cases h with
  | shift shifts readable =>
    obtain ⟨before, spells, rfl⟩ := spelled
    exact ⟨_, .cons (.token _) spells, by simp⟩
  | place shifts =>
    obtain ⟨before, words, spells, covers, rfl⟩ := spelled
    exact ⟨_, .cons covers spells, rfl⟩
  | reduce reduces handle absorbs =>
    obtain ⟨before, spells, rfl⟩ := spelled
    obtain ⟨taken, absorbed, eq⟩ := absorbs.exists_taken
    obtain ⟨before', covered, same, covers, spells'⟩ := handle.spells spells rfl absorbed
    refine ⟨before', covered, spells', covers, ?_⟩
    rw [← same, eq]
    simp
  | join reduces handle absorbs =>
    obtain ⟨before, words, spells, comes, rfl⟩ := spelled
    obtain ⟨taken, absorbed, eq⟩ := absorbs.exists_taken
    obtain ⟨before', covered, same, covers, spells'⟩ := handle.spells spells comes absorbed
    refine ⟨before', covered, spells', covers, ?_⟩
    rw [← same, eq]
    simp

/-- In every stage of a run the stack and the rest of the input make up the script. -/
theorem Reaches.spelled {tokens : List Token} {first stage : Stage} (h : first.Reaches stage)
    (sound : first.Sound) (spelled : first.Spelled tokens) : stage.Spelled tokens := by
  induction h with
  | refl => exact spelled
  | tail reaches step ih => exact (moves_of_step (Reaches.sound reaches sound) step).spelled ih

end Stage

theorem Stage.andThen_ne_ok {α : Type} {result : Except ParseError (α × Config)}
    {next : α → Config → Stage} {program : Program} :
    Stage.andThen result next ≠ .halt (.ok program) := by
  intro h
  unfold Stage.andThen at h
  split at h <;> cases h

/-- A run ends with a program only where the input has ended. -/
theorem Stage.eq_reading_of_ok {stage : Stage} {program : Program}
    (h : stage.step = .halt (.ok program)) :
    ∃ stack stop, stage = .reading ⟨stack, ⟨[], stop⟩⟩ ∧ statements? stack = some program.body := by
  rcases stage with ⟨stack, ⟨tokens, stop⟩⟩ | ⟨⟨stack, input⟩, node⟩
  · cases tokens with
    | nil =>
      refine ⟨stack, stop, rfl, ?_⟩
      have finish : Config.finish ⟨stack, ⟨[], stop⟩⟩ = .ok program := Step.halt.inj h
      unfold Config.finish at finish
      split at finish
      · rename_i body found
        cases finish
        exact found
      · cases finish
    | cons token tokens =>
      rw [step_reading] at h
      split at h
      · cases h
      · exact absurd h andThen_ne_ok
      · exact absurd h andThen_ne_ok
  · rw [step_placing] at h
    split at h
    · cases h
    · cases h
    · exact absurd h andThen_ne_ok

theorem symbols_of_statements? {stack : List Entry} {body : List Statement}
    (h : statements? stack = some body) :
    stack.map Entry.symbol = body.reverse.map fun value => .node (.statement value) := by
  have forwards : ∀ {entries : List Entry} {body : List Statement},
      (entries.mapM fun entry => entry.symbol.statement?) = some body →
        entries.map Entry.symbol = body.map fun value => .node (.statement value) := by
    intro entries
    induction entries with
    | nil =>
      intro body found
      cases found
      rfl
    | cons entry entries ih =>
      intro body found
      rw [List.mapM_cons] at found
      obtain ⟨statement, first, found⟩ := Option.bind_eq_some_iff.1 found
      obtain ⟨rest, others, found⟩ := Option.bind_eq_some_iff.1 found
      cases found
      have symbol : entry.symbol = .node (.statement statement) := by
        unfold Symbol.statement? at first
        split at first <;> cases first
        assumption
      rw [List.map_cons, List.map_cons, ih others, symbol]
  have reversed := forwards h
  rw [List.map_reverse, List.reverse_eq_iff] at reversed
  rw [reversed, List.map_reverse]

/-- **A run that ends with a program has found a derivation of it.** -/
theorem derivedFrom_of_parseScan {program : Program} {tokens : List Token}
    (h : parseScan ⟨tokens, none⟩ = .ok program) : program.DerivedFrom tokens := by
  rw [parseScan_eq] at h
  obtain ⟨last, reaches, halts⟩ := (reads [] tokens).exists_halt
  rw [h] at halts
  have spelled : last.Spelled tokens := reaches.spelled Linked.nil ⟨[], .nil, rfl⟩
  obtain ⟨stack, stop, rfl, found⟩ := Stage.eq_reading_of_ok halts
  obtain ⟨_, spells, rfl⟩ := spelled
  rw [← List.append_nil stack] at spells
  obtain ⟨before, statements, rfl, body, each, bottom⟩ :=
    spells.of_statements (symbols_of_statements? found)
  cases bottom
  obtain ⟨body'⟩ := program
  obtain rfl : body' = statements.map Prod.fst := body
  rw [List.append_nil, List.nil_append]
  exact .statements each

theorem parseScan_eq_ok_iff {program : Program} {tokens : List Token} :
    parseScan ⟨tokens, none⟩ = .ok program ↔ program.DerivedFrom tokens :=
  ⟨derivedFrom_of_parseScan, parseScan_of_derivedFrom⟩

end NumScript.Automaton

namespace NumScript

/-- Two programs that are written with the same tokens are the same. -/
theorem Program.DerivedFrom.unique {first second : Program} {tokens : List Token}
    (h : first.DerivedFrom tokens) (h' : second.DerivedFrom tokens) : first = second := by
  have parsed := Automaton.parseScan_of_derivedFrom h
  rw [Automaton.parseScan_of_derivedFrom h'] at parsed
  exact (Except.ok.inj parsed).symm

theorem scan_of_tokenize {source : String} {tokens : List Token}
    (h : tokenize source = .ok tokens) : scan source = ⟨tokens, none⟩ := tokenize_eq_ok_iff.mp h

/-- **The automaton accepts exactly the language, with the trees of the grammar.** A script that
    consists of tokens is parsed as a program just when the program is written with these tokens; and
    no row of tokens has two programs. -/
theorem parse_eq_ok_iff_derivedFrom :
    (∀ source tokens, tokenize source = .ok tokens → ∀ program : Program,
      parse source = .ok program ↔ program.DerivedFrom tokens) ∧
    ∀ tokens (first second : Program), first.DerivedFrom tokens → second.DerivedFrom tokens →
      first = second := by
  constructor
  · intro source tokens tokenized program
    rw [parse, scan_of_tokenize tokenized]
    exact Automaton.parseScan_eq_ok_iff
  · intro tokens first second written written'
    exact written.unique written'

set_option maxRecDepth 8192 in
/-- A sign binds more tightly than a product, and a product more tightly than a sum. -/
theorem derivedFrom_difference :
    tokenize "f(a,) - -b * c;" = .ok [.identifier "f", .mark .leftParen, .identifier "a",
      .mark .comma, .mark .rightParen, .operator .subtract, .operator .subtract, .identifier "b",
      .operator .multiply, .identifier "c", .mark .semicolon] ∧
    Program.DerivedFrom
      ⟨[.expression (.binary .subtract (.call "f" [.var "a"])
        (.binary .multiply (.unary .negate (.var "b")) (.var "c")))]⟩
      [.identifier "f", .mark .leftParen, .identifier "a", .mark .comma, .mark .rightParen,
        .operator .subtract, .operator .subtract, .identifier "b", .operator .multiply,
        .identifier "c", .mark .semicolon] := by
  have tokenized : tokenize "f(a,) - -b * c;" = .ok [.identifier "f", .mark .leftParen,
      .identifier "a", .mark .comma, .mark .rightParen, .operator .subtract, .operator .subtract,
      .identifier "b", .operator .multiply, .identifier "c", .mark .semicolon] := by cbv
  have parsed : parse "f(a,) - -b * c;" = .ok ⟨[.expression (.binary .subtract
      (.call "f" [.var "a"]) (.binary .multiply (.unary .negate (.var "b")) (.var "c")))]⟩ := by
    cbv
  exact ⟨tokenized, (parse_eq_ok_iff_derivedFrom.1 _ _ tokenized _).1 parsed⟩

end NumScript
