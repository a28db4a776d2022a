import NumScript.Program

/-!
# Comparing programs

Two trees are the same when they are built alike from the same names, numbers and operators, bit for
bit. `same` compares them node by node, and the facts after it say that this is equality; so equality
of programs can be decided.
-/

namespace NumScript

/-! ## 1. Expressions -/

mutual
/-- Whether two expressions are the same. -/
def Expression.same : Expression → Expression → Bool
  | .number value, .number value' => value == value'
  | .var name, .var name' => name == name'
  | .binary op left right, .binary op' left' right' =>
    op == op' && (left.same left' && right.same right')
  | .unary op operand, .unary op' operand' => op == op' && operand.same operand'
  | .call callee arguments, .call callee' arguments' =>
    callee == callee' && Expression.allSame arguments arguments'
  | .assign target value, .assign target' value' => target == target' && value.same value'
  | _, _ => false

/-- Whether two lists of expressions are the same. -/
def Expression.allSame : List Expression → List Expression → Bool
  | [], [] => true
  | value :: rest, value' :: rest' => value.same value' && Expression.allSame rest rest'
  | _, _ => false
end

mutual
theorem Expression.same_self : ∀ value : Expression, value.same value = true
  | .number _ => by simp [Expression.same]
  | .var _ => by simp [Expression.same]
  | .binary _ left right => by simp [Expression.same, left.same_self, right.same_self]
  | .unary _ operand => by simp [Expression.same, operand.same_self]
  | .call _ arguments => by simp [Expression.same, Expression.allSame_self arguments]
  | .assign _ value => by simp [Expression.same, value.same_self]

theorem Expression.allSame_self : ∀ values : List Expression,
    Expression.allSame values values = true
  | [] => rfl
  | value :: rest => by simp [Expression.allSame, value.same_self, Expression.allSame_self rest]
end

mutual
theorem Expression.eq_of_same : ∀ {first second : Expression},
    first.same second = true → first = second
  | .number _, second, h => by
    cases second <;> simp only [Expression.same, beq_iff_eq, Bool.false_eq_true] at h
    rw [h]
  | .var _, second, h => by
    cases second <;> simp only [Expression.same, beq_iff_eq, Bool.false_eq_true] at h
    rw [h]
  | .binary _ left right, second, h => by
    cases second <;>
      simp only [Expression.same, beq_iff_eq, Bool.and_eq_true, Bool.false_eq_true] at h
    obtain ⟨op, onLeft, onRight⟩ := h
    rw [op, Expression.eq_of_same onLeft, Expression.eq_of_same onRight]
  | .unary _ operand, second, h => by
    cases second <;>
      simp only [Expression.same, beq_iff_eq, Bool.and_eq_true, Bool.false_eq_true] at h
    rw [h.1, Expression.eq_of_same h.2]
  | .call _ arguments, second, h => by
    cases second <;>
      simp only [Expression.same, beq_iff_eq, Bool.and_eq_true, Bool.false_eq_true] at h
    rw [h.1, Expression.eq_of_allSame h.2]
  | .assign _ value, second, h => by
    cases second <;>
      simp only [Expression.same, beq_iff_eq, Bool.and_eq_true, Bool.false_eq_true] at h
    rw [h.1, Expression.eq_of_same h.2]

theorem Expression.eq_of_allSame : ∀ {first second : List Expression},
    Expression.allSame first second = true → first = second
  | [], second, h => by
    cases second <;> simp only [Expression.allSame, Bool.false_eq_true] at h
    rfl
  | value :: rest, second, h => by
    cases second <;> simp only [Expression.allSame, Bool.and_eq_true, Bool.false_eq_true] at h
    rw [Expression.eq_of_same h.1, Expression.eq_of_allSame h.2]
end

instance : DecidableEq Expression := fun first second =>
  decidable_of_iff (first.same second = true)
    ⟨Expression.eq_of_same, fun h => h ▸ first.same_self⟩

/-! ## 2. Statements -/

mutual
/-- Whether two statements are the same. -/
def Statement.same : Statement → Statement → Bool
  | .function name params body, .function name' params' body' =>
    name == name' && (params == params' && Statement.allSame body body')
  | .variableDeclaration name init, .variableDeclaration name' init' =>
    name == name' && init == init'
  | .expression value, .expression value' => value == value'
  | .ifElse test consequent alternate, .ifElse test' consequent' alternate' =>
    test == test' && (Statement.allSame consequent consequent' &&
      Statement.allSame alternate alternate')
  | .returnValue argument, .returnValue argument' => argument == argument'
  | .exportFunction name params body, .exportFunction name' params' body' =>
    name == name' && (params == params' && Statement.allSame body body')
  | .exportSpecifiers specifiers, .exportSpecifiers specifiers' => specifiers == specifiers'
  | _, _ => false

/-- Whether two lists of statements are the same. -/
def Statement.allSame : List Statement → List Statement → Bool
  | [], [] => true
  | statement :: rest, statement' :: rest' =>
    statement.same statement' && Statement.allSame rest rest'
  | _, _ => false
end

mutual
theorem Statement.same_self : ∀ statement : Statement, statement.same statement = true
  | .function _ _ body => by simp [Statement.same, Statement.allSame_self body]
  | .variableDeclaration _ _ => by simp [Statement.same]
  | .expression _ => by simp [Statement.same]
  | .ifElse _ consequent alternate => by
    simp [Statement.same, Statement.allSame_self consequent, Statement.allSame_self alternate]
  | .returnValue _ => by simp [Statement.same]
  | .exportFunction _ _ body => by simp [Statement.same, Statement.allSame_self body]
  | .exportSpecifiers _ => by simp [Statement.same]

theorem Statement.allSame_self : ∀ statements : List Statement,
    Statement.allSame statements statements = true
  | [] => rfl
  | statement :: rest => by
    simp [Statement.allSame, statement.same_self, Statement.allSame_self rest]
end

mutual
theorem Statement.eq_of_same : ∀ {first second : Statement},
    first.same second = true → first = second
  | .function _ _ body, second, h => by
    cases second <;>
      simp only [Statement.same, beq_iff_eq, Bool.and_eq_true, Bool.false_eq_true] at h
    rw [h.1, h.2.1, Statement.eq_of_allSame h.2.2]
  | .variableDeclaration _ _, second, h => by
    cases second <;>
      simp only [Statement.same, beq_iff_eq, Bool.and_eq_true, Bool.false_eq_true] at h
    rw [h.1, h.2]
  | .expression _, second, h => by
    cases second <;> simp only [Statement.same, beq_iff_eq, Bool.false_eq_true] at h
    rw [h]
  | .ifElse _ consequent alternate, second, h => by
    cases second <;>
      simp only [Statement.same, beq_iff_eq, Bool.and_eq_true, Bool.false_eq_true] at h
    rw [h.1, Statement.eq_of_allSame h.2.1, Statement.eq_of_allSame h.2.2]
  | .returnValue _, second, h => by
    cases second <;> simp only [Statement.same, beq_iff_eq, Bool.false_eq_true] at h
    rw [h]
  | .exportFunction _ _ body, second, h => by
    cases second <;>
      simp only [Statement.same, beq_iff_eq, Bool.and_eq_true, Bool.false_eq_true] at h
    rw [h.1, h.2.1, Statement.eq_of_allSame h.2.2]
  | .exportSpecifiers _, second, h => by
    cases second <;> simp only [Statement.same, beq_iff_eq, Bool.false_eq_true] at h
    rw [h]

theorem Statement.eq_of_allSame : ∀ {first second : List Statement},
    Statement.allSame first second = true → first = second
  | [], second, h => by
    cases second <;> simp only [Statement.allSame, Bool.false_eq_true] at h
    rfl
  | statement :: rest, second, h => by
    cases second <;> simp only [Statement.allSame, Bool.and_eq_true, Bool.false_eq_true] at h
    rw [Statement.eq_of_same h.1, Statement.eq_of_allSame h.2]
end

instance : DecidableEq Statement := fun first second =>
  decidable_of_iff (first.same second = true)
    ⟨Statement.eq_of_same, fun h => h ▸ first.same_self⟩

deriving instance DecidableEq for FunctionDeclaration, Program

end NumScript
