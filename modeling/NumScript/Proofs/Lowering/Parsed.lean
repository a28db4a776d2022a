import NumScript.Proofs.Lowering.Emission
import NumScript.Proofs.Grammar.SourceShape

/-!
# Lowering what was parsed

The lowering takes any tree. It refuses a comparison or an assignment that stands for a value, and
what is the test of a condition without being a comparison it compares with zero. A program of the
shape of a script gives no occasion for any of this: `Spares` says that a result is not one of the two
errors, and each part of the lowering spares what has the shape. The main statement is
`lower_spares_parsed`.
-/

namespace NumScript

open Wat (Instruction)

/-! ## 1. The two errors -/

/-- The errors about expressions that stand where a script cannot have them. -/
def LowerError.AboutShape : LowerError → Prop
  | .comparisonAsValue _ | .assignmentAsValue _ => True
  | _ => False

/-- The results that are not an error about the shape. Other errors are allowed. -/
def Spares {α : Type} : Except LowerError α → Prop
  | .ok _ => True
  | .error error => ¬ error.AboutShape

section Results

variable {α β : Type} {result : Except LowerError α}

theorem Spares.bind {next : α → Except LowerError β} (h : Spares result)
    (more : ∀ value, Spares (next value)) : Spares (result >>= next) := by
  cases result with
  | error error => exact h
  | ok value => exact more value

theorem Spares.ne_error (h : Spares result) {error : LowerError} (shape : error.AboutShape) :
    result ≠ .error error := by
  rintro rfl
  exact h shape

/-- A pure step at the end changes nothing. -/
theorem Spares.map (h : Spares result) (f : α → β) :
    Spares (result >>= fun value => pure (f value)) :=
  h.bind fun _ => trivial

end Results

/-! ## 2. Bodies -/

section Bodies

variable {scope : Scope}

theorem spares_resolve (name : String) : Spares (scope.resolve name) := by
  unfold Scope.resolve
  split
  · trivial
  · exact id

theorem spares_checkCall (callee : String) (given : Nat) : Spares (scope.checkCall callee given) := by
  unfold Scope.checkCall
  split
  · exact id
  · split
    · exact id
    · split
      · trivial
      · exact id

mutual
/-- **An expression without comparisons and assignments is never refused for its shape.** -/
theorem spares_lowerExpression : ∀ {value : Expression}, value.Arithmetic →
    Spares (lowerExpression scope value)
  | .number value, _ => trivial
  | .var name, _ => by
    rw [lowerExpression]
    exact (spares_resolve name).map _
  | .binary op left right, .binary arithmetic onLeft onRight => by
    have other : op.isRelational = false := decide_eq_false (mem_arithmetic_iff.mp arithmetic)
    rw [lowerExpression, other, if_neg Bool.false_ne_true]
    exact (spares_lowerExpression onLeft).bind fun _ => (spares_lowerExpression onRight).map _
  | .unary op operand, .unary inner => by
    rw [lowerExpression]
    exact (spares_lowerExpression inner).map _
  | .call callee arguments, .call named each => by
    rw [lowerExpression]
    exact (spares_checkCall callee _).bind fun _ => (spares_lowerArguments each).map _

theorem spares_lowerArguments : ∀ {arguments : List Expression},
    (∀ argument ∈ arguments, argument.Arithmetic) → Spares (lowerArguments scope arguments)
  | [], _ => trivial
  | argument :: rest, each => by
    obtain ⟨first, others⟩ := List.forall_mem_cons.mp each
    rw [lowerArguments]
    exact (spares_lowerExpression first).bind fun _ => (spares_lowerArguments others).map _
end

theorem Expression.Bare.arithmetic {value : Expression} (h : value.Bare) : value.Arithmetic := by
  cases h with
  | number literal => exact .number literal
  | var named => exact .var named

/-- The instructions of a comparison that is a test: its two sides and the operation, and no zero. -/
def lowerComparison (scope : Scope) (op : BinaryOperator) (left right : Expression) :
    Except LowerError (List Instruction) := do
  let first ← lowerExpression scope left
  let second ← lowerExpression scope right
  pure (first ++ second ++ [.float (floatOperation op)])

theorem lowerCondition_comparison {op : BinaryOperator} (comparison : op.isRelational = true)
    (left right : Expression) :
    lowerCondition scope (.binary op left right) = lowerComparison scope op left right := by
  rw [lowerCondition, if_pos comparison, lowerComparison]

theorem spares_lowerEffect {value : Expression}
    (h : (Statement.expression value).SourceShaped) : Spares (lowerEffect scope value) := by
  cases h with
  | assignment named arithmetic =>
    exact (spares_lowerExpression arithmetic).bind fun _ => (spares_resolve _).map _
  | evaluation arithmetic =>
    have dropped := (@spares_lowerExpression scope _ arithmetic).map (· ++ [Instruction.drop])
    cases arithmetic with
    | @call callee arguments named each =>
      rw [lowerEffect]
      split
      · split
        · trivial
        · exact id
      · exact dropped
    | _ => exact dropped

mutual
theorem spares_lowerStatement : ∀ {statement : Statement} (tail : Bool), statement.SourceShaped →
    Spares (lowerStatement scope tail statement)
  | .returnValue argument, tail, .result value => by
    rw [lowerStatement]
    exact (spares_lowerExpression value).map _
  | .ifElse (.binary op left right) consequent alternate, tail,
      .choice comparison onLeft onRight first second => by
    have relational : op.isRelational = true := decide_eq_true comparison
    have tested : Spares (lowerCondition scope (.binary op left right)) := by
      rw [lowerCondition_comparison relational]
      exact (spares_lowerExpression onLeft.arithmetic).bind fun _ =>
        (spares_lowerExpression onRight.arithmetic).map _
    rw [lowerStatement]
    exact tested.bind fun _ => (spares_lowerStatements tail first).bind fun _ =>
      (spares_lowerStatements tail second).map _
  | .variableDeclaration name none, tail, _ => trivial
  | .variableDeclaration name (some init), tail, .initialized named value => by
    rw [lowerStatement]
    exact (spares_lowerExpression value).map _
  | .expression value, tail, h => by
    rw [lowerStatement]
    exact spares_lowerEffect h
  | .function name params body, tail, _ => id
  | .exportFunction name params body, tail, _ => id
  | .exportSpecifiers specifiers, tail, _ => id

theorem spares_lowerStatements : ∀ {body : List Statement} (tail : Bool),
    (∀ statement ∈ body, statement.SourceShaped) → Spares (lowerStatements scope tail body)
  | [], tail, _ => trivial
  | statement :: rest, tail, each => by
    obtain ⟨first, others⟩ := List.forall_mem_cons.mp each
    rw [lowerStatements]
    split
    · exact spares_lowerStatement tail first
    · exact (spares_lowerStatement _ first).bind fun _ => (spares_lowerStatements tail others).map _
end

end Bodies

/-! ## 3. Programs -/

theorem spares_checkParams (function : String) : ∀ seen params : List String,
    Spares (checkParams function seen params)
  | seen, [] => trivial
  | seen, param :: rest => by
    rw [checkParams]
    split
    · exact id
    · split
      · exact id
      · exact spares_checkParams function _ rest

theorem spares_checkVariables (names : List String) : Spares (checkVariables names) := by
  unfold checkVariables
  split
  · exact id
  · trivial

theorem spares_signatures : ∀ (known : List String) (body : List Statement),
    Spares (signatures known body)
  | known, [] => trivial
  | known, statement :: rest => by
    rw [signatures]
    split
    · exact spares_signatures known rest
    · split
      · exact id
      · split
        · exact id
        · exact (spares_signatures _ rest).map _

section Items

variable {signatures : List (String × Nat)}

theorem spares_lowerFunction {function : FunctionDeclaration}
    (each : ∀ statement ∈ function.body, statement.SourceShaped) :
    Spares (lowerFunction signatures function) := by
  unfold lowerFunction
  exact (spares_checkParams _ _ _).bind fun _ => (spares_checkVariables _).bind fun _ =>
    (spares_lowerStatements true each).map _

theorem spares_lowerExport (taken : List String) (name function : String) :
    Spares (lowerExport taken name function) := by
  unfold lowerExport
  split
  · exact id
  · trivial

theorem spares_lowerSpecifiers : ∀ (taken : List String) (specifiers : List ExportSpecifier),
    Spares (lowerSpecifiers signatures taken specifiers)
  | taken, [] => trivial
  | taken, specifier :: rest => by
    rw [lowerSpecifiers]
    split
    · exact id
    · exact (spares_lowerExport _ _ _).bind fun _ => (spares_lowerSpecifiers _ rest).map _

theorem spares_lowerItem (taken : List String) {statement : Statement}
    (h : statement.SourceShaped) : Spares (lowerItem signatures taken statement) := by
  cases h with
  | function named params each => exact (spares_lowerFunction each).map _
  | exportFunction named params each =>
    exact (spares_lowerExport _ _ _).bind fun _ => (spares_lowerFunction each).map _
  | exportSpecifiers names => exact (spares_lowerSpecifiers _ _).map _
  | _ => exact id

theorem spares_lowerItems : ∀ {body : List Statement} (taken : List String),
    (∀ statement ∈ body, statement.SourceShaped) → Spares (lowerItems signatures taken body)
  | [], taken, _ => trivial
  | statement :: rest, taken, each => by
    obtain ⟨first, others⟩ := List.forall_mem_cons.mp each
    rw [lowerItems]
    exact (spares_lowerItem taken first).bind fun _ => (spares_lowerItems _ others).map _

end Items

/-- **A program of the shape of a script is never refused for its shape.** -/
theorem spares_lower (width : Wat.FloatWidth) {program : Program} (h : program.SourceShaped) :
    Spares (lower width program) := by
  rw [lower_eq, lowerProgram]
  exact (spares_signatures _ _).bind fun _ => (spares_lowerItems [] h).map _

/-! ## 4. Tests -/

/-- The blocks of a statement. -/
def Statement.blocks : Statement → List (List Statement)
  | .function _ _ body | .exportFunction _ _ body => [body]
  | .ifElse _ consequent alternate => [consequent, alternate]
  | _ => []

/-- The tests of the conditions in a list of statements, in whatever block. -/
inductive Tests : List Statement → Expression → Prop
  | here {body consequent alternate : List Statement} {test : Expression}
      (mem : .ifElse test consequent alternate ∈ body) : Tests body test
  | inside {body block : List Statement} {statement : Statement} {test : Expression}
      (mem : statement ∈ body) (isBlock : block ∈ statement.blocks) (inner : Tests block test) :
      Tests body test

theorem Statement.SourceShaped.blocks {statement : Statement} (h : statement.SourceShaped) :
    ∀ block ∈ statement.blocks, ∀ inner ∈ block, inner.SourceShaped := by
  cases h with
  | function named params each | exportFunction named params each =>
    exact List.forall_mem_singleton.mpr each
  | choice comparison onLeft onRight first second =>
    exact List.forall_mem_cons.mpr ⟨first, List.forall_mem_singleton.mpr second⟩
  | _ => exact fun _ mem => nomatch mem

theorem comparison_of_tests {body : List Statement} {test : Expression} (h : Tests body test)
    (each : ∀ statement ∈ body, statement.SourceShaped) :
    ∃ op left right, test = .binary op left right ∧ op.isRelational = true := by
  induction h with
  | here mem =>
    cases each _ mem with
    | choice comparison onLeft onRight first second =>
      exact ⟨_, _, _, rfl, decide_eq_true comparison⟩
  | inside mem isBlock inner ih => exact ih ((each _ mem).blocks _ isBlock)

theorem emitCondition_comparison {op : BinaryOperator} (comparison : op.isRelational = true)
    (left right : Expression) :
    emitCondition (.binary op left right) = emitComparison op left right := by
  rw [emitCondition, if_pos comparison]

/-- **What is parsed is what the lowering expects.** A program that was parsed has the shape of a
    script; so, for both widths, it is not refused for a comparison or an assignment that stands for a
    value, and each of its tests is emitted as the comparison that it is, never compared with zero. -/
theorem lower_spares_parsed {source : String} {program : Program}
    (h : parse source = .ok program) :
    program.SourceShaped ∧
    (∀ width op, lower width program ≠ .error (.comparisonAsValue op)) ∧
    (∀ width target, lower width program ≠ .error (.assignmentAsValue target)) ∧
    ∀ test, Tests program.body test → ∃ op left right,
      test = .binary op left right ∧ op.isRelational = true ∧
      emitCondition test = emitComparison op left right ∧
      ∀ scope, lowerCondition scope test = lowerComparison scope op left right := by
  have shaped := sourceShaped_of_parse h
  refine ⟨shaped, ?_, ?_, ?_⟩
  · intro width op
    exact (spares_lower width shaped).ne_error trivial
  · intro width target
    exact (spares_lower width shaped).ne_error trivial
  · intro test standing
    obtain ⟨op, left, right, rfl, relational⟩ := comparison_of_tests standing shaped
    exact ⟨op, left, right, rfl, relational, emitCondition_comparison relational left right,
      fun _ => lowerCondition_comparison relational left right⟩

/-- A function with a test, an assignment under it, and a sign in the assignment. -/
def guardedAssignment : Program where
  body := [.function "f" ["a", "b"]
    [.ifElse (.binary .less (.var "a") (.var "b"))
      [.expression (.assign "a" (.binary .multiply (.unary .negate (.var "a")) (.var "b")))] [],
    .returnValue (.var "a")]]

set_option maxRecDepth 8192 in
theorem lower_spares_guardedAssignment :
    parse "function f(a,b)\x7bif(a<b)\x7ba=-a*b;\x7delse\x7b\x7dreturn a;\x7d" =
      .ok guardedAssignment ∧
    guardedAssignment.SourceShaped ∧
    (∀ target, lower .f64 guardedAssignment ≠ .error (.assignmentAsValue target)) ∧
    ∃ op left right, Expression.binary .less (.var "a") (.var "b") = .binary op left right ∧
      op.isRelational = true ∧
      emitCondition (.binary .less (.var "a") (.var "b")) = emitComparison op left right ∧
      ∀ scope, lowerCondition scope (.binary .less (.var "a") (.var "b")) =
        lowerComparison scope op left right := by
  have parsed : parse "function f(a,b)\x7bif(a<b)\x7ba=-a*b;\x7delse\x7b\x7dreturn a;\x7d" =
      .ok guardedAssignment := by cbv
  obtain ⟨shaped, -, assignments, tests⟩ := lower_spares_parsed parsed
  exact ⟨parsed, shaped, assignments .f64, tests _ (.inside List.mem_cons_self List.mem_cons_self
    (.here List.mem_cons_self))⟩

end NumScript
