import NumScript.Proofs.Lowering.Inversion

/-!
# The size of lowered code

Code that is left early is easily copied into every place from which it is left. Nothing is copied
here: each node of the source has its own instructions, at most three of them, and a function has two
more for the block around its body and for its result. So the size of a function is linear in the size
of its source, however its conditions and returns are nested (`codeSize_le_of_lower`).

An expression takes one instruction for each of its nodes, or none for a sign that changes nothing.
What a statement adds to its expressions is at most three: the comparison of a test with zero and the
choice itself. The inductions below follow the lowering with these two bounds.
-/

namespace NumScript

open Wat (Instruction)

/-! ## 1. Sizes -/

mutual
/-- The number of instructions that an instruction is: itself, and those in its bodies. -/
def Wat.Instruction.size : Instruction → Nat
  | .ifElse consequent alternate => 1 + codeSize consequent + codeSize alternate
  | .block _ body => 1 + codeSize body
  | _ => 1

/-- The number of instructions of a body, with those in the bodies inside. -/
def codeSize : List Instruction → Nat
  | [] => 0
  | instruction :: rest => instruction.size + codeSize rest
end

mutual
/-- The number of nodes of an expression. -/
def Expression.nodes : Expression → Nat
  | .number _ => 1
  | .var _ => 1
  | .binary _ left right => 1 + left.nodes + right.nodes
  | .unary _ operand => 1 + operand.nodes
  | .call _ arguments => 1 + argumentNodes arguments
  | .assign _ value => 1 + value.nodes

/-- The number of nodes of a list of expressions. -/
def argumentNodes : List Expression → Nat
  | [] => 0
  | argument :: rest => argument.nodes + argumentNodes rest
end

mutual
/-- The number of statements and expressions that a statement consists of. -/
def Statement.nodes : Statement → Nat
  | .function _ _ body => 1 + bodyNodes body
  | .variableDeclaration _ none => 1
  | .variableDeclaration _ (some init) => 1 + init.nodes
  | .expression value => 1 + value.nodes
  | .ifElse test consequent alternate => 1 + test.nodes + bodyNodes consequent + bodyNodes alternate
  | .returnValue argument => 1 + argument.nodes
  | .exportFunction _ _ body => 1 + bodyNodes body
  | .exportSpecifiers _ => 1

/-- The number of statements and expressions that a body consists of. -/
def bodyNodes : List Statement → Nat
  | [] => 0
  | statement :: rest => statement.nodes + bodyNodes rest
end

@[simp] theorem codeSize_nil : codeSize [] = 0 := rfl

@[simp] theorem codeSize_cons (instruction : Instruction) (rest : List Instruction) :
    codeSize (instruction :: rest) = instruction.size + codeSize rest := rfl

@[simp] theorem codeSize_append (first second : List Instruction) :
    codeSize (first ++ second) = codeSize first + codeSize second := by
  induction first with
  | nil => simp
  | cons instruction rest ih => rw [List.cons_append, codeSize_cons, codeSize_cons, ih, Nat.add_assoc]

/-! ## 2. Expressions -/

section Expressions

variable {scope : Scope} {code : List Instruction}

theorem size_callInstruction (callee : String) : (callInstruction callee).size = 1 := by
  unfold callInstruction
  split
  · rfl
  · rfl

theorem codeSize_unaryInstructions_le (op : UnaryOperator) : codeSize (unaryInstructions op) ≤ 1 := by
  cases op <;> decide

mutual
/-- **An expression takes at most one instruction for each of its nodes.** -/
theorem codeSize_lowerExpression_le : ∀ (value : Expression) {code : List Instruction},
    lowerExpression scope value = .ok code → codeSize code ≤ value.nodes
  | .number value, code, h => by
    rw [lowerExpression_number] at h
    rw [h]
    exact Nat.le_refl 1
  | .var name, code, h => by
    obtain ⟨_, rfl⟩ := lowerExpression_var.mp h
    exact Nat.le_refl 1
  | .binary op left right, code, h => by
    obtain ⟨_, first, second, onLeft, onRight, rfl⟩ := lowerExpression_binary.mp h
    have leftBound := codeSize_lowerExpression_le left onLeft
    have rightBound := codeSize_lowerExpression_le right onRight
    simp only [codeSize_append, codeSize_cons, codeSize_nil, Instruction.size, Expression.nodes]
    omega
  | .unary op operand, code, h => by
    obtain ⟨inner, lowered, rfl⟩ := lowerExpression_unary.mp h
    have bound := codeSize_lowerExpression_le operand lowered
    have sign := codeSize_unaryInstructions_le op
    simp only [codeSize_append, Expression.nodes]
    omega
  | .call callee arguments, code, h => by
    obtain ⟨_, _, inner, lowered, rfl⟩ := lowerExpression_call.mp h
    have bound := codeSize_lowerArguments_le arguments lowered
    simp only [codeSize_append, codeSize_cons, codeSize_nil, size_callInstruction, Expression.nodes]
    omega
  | .assign _ _, code, h => absurd h lowerExpression_assign

theorem codeSize_lowerArguments_le : ∀ (arguments : List Expression) {code : List Instruction},
    lowerArguments scope arguments = .ok code → codeSize code ≤ argumentNodes arguments
  | [], code, h => by
    rw [lowerArguments_nil] at h
    rw [h]
    exact Nat.le_refl 0
  | argument :: rest, code, h => by
    obtain ⟨first, others, onFirst, onRest, rfl⟩ := lowerArguments_cons.mp h
    have bound := codeSize_lowerExpression_le argument onFirst
    have others := codeSize_lowerArguments_le rest onRest
    simp only [codeSize_append, argumentNodes]
    omega
end

/-- A test that is no comparison takes two instructions more, to be compared with zero. -/
theorem codeSize_lowerCondition_le {test : Expression} (h : lowerCondition scope test = .ok code) :
    codeSize code ≤ test.nodes + 2 := by
  obtain ⟨op, left, right, first, second, rfl, _, onLeft, onRight, rfl⟩ | ⟨inner, lowered, rfl⟩ :=
    lowerCondition_eq_ok.mp h
  · have leftBound := codeSize_lowerExpression_le left onLeft
    have rightBound := codeSize_lowerExpression_le right onRight
    simp only [codeSize_append, codeSize_cons, codeSize_nil, Instruction.size, Expression.nodes]
    omega
  · have bound := codeSize_lowerExpression_le test lowered
    simp only [codeSize_append, codeSize_cons, codeSize_nil, Instruction.size]
    omega

/-- A fault is one node and three instructions; nothing else takes more than one instruction beside
    its nodes. -/
theorem codeSize_lowerEffect_le {value : Expression} (h : lowerEffect scope value = .ok code) :
    codeSize code ≤ value.nodes + 2 := by
  obtain ⟨target, source, inner, rfl, lowered, _, rfl⟩ | ⟨rfl, rfl⟩ | ⟨inner, lowered, rfl⟩ :=
    lowerEffect_eq_ok.mp h
  · have bound := codeSize_lowerExpression_le source lowered
    simp only [codeSize_append, codeSize_cons, codeSize_nil, Instruction.size, Expression.nodes]
    omega
  · exact Nat.le_refl 3
  · have bound := codeSize_lowerExpression_le value lowered
    simp only [codeSize_append, codeSize_cons, codeSize_nil, Instruction.size]
    omega

end Expressions

/-! ## 3. Statements -/

section Statements

variable {scope : Scope}

mutual
theorem codeSize_lowerStatement_le : ∀ (statement : Statement) {tail : Bool}
    {code : List Instruction},
    lowerStatement scope tail statement = .ok code → codeSize code ≤ 3 * statement.nodes
  | .returnValue argument, tail, code, h => by
    obtain ⟨inner, lowered, rfl⟩ := lowerStatement_return.mp h
    have bound := codeSize_lowerExpression_le argument lowered
    have exit : codeSize (if tail then [] else [.br Wat.exitLabel]) ≤ 1 := by cases tail <;> decide
    simp only [codeSize_append, codeSize_cons, Instruction.size, Statement.nodes]
    omega
  | .ifElse test consequent alternate, tail, code, h => by
    obtain ⟨inner, first, second, onTest, onFirst, onSecond, rfl⟩ := lowerStatement_ifElse.mp h
    have testBound := codeSize_lowerCondition_le onTest
    have firstBound := codeSize_lowerStatements_le consequent onFirst
    have secondBound := codeSize_lowerStatements_le alternate onSecond
    simp only [codeSize_append, codeSize_cons, codeSize_nil, Instruction.size, Statement.nodes]
    omega
  | .variableDeclaration name none, tail, code, h => by
    rw [lowerStatement_declaration] at h
    rw [h]
    exact Nat.zero_le _
  | .variableDeclaration name (some init), tail, code, h => by
    obtain ⟨inner, lowered, rfl⟩ := lowerStatement_initialized.mp h
    have bound := codeSize_lowerExpression_le init lowered
    simp only [codeSize_append, codeSize_cons, codeSize_nil, Instruction.size, Statement.nodes]
    omega
  | .expression value, tail, code, h => by
    have bound := codeSize_lowerEffect_le (lowerStatement_expression.mp h)
    simp only [Statement.nodes]
    omega
  | .function _ _ _, tail, code, h => absurd h lowerStatement_function
  | .exportFunction _ _ _, tail, code, h => absurd h lowerStatement_exportFunction
  | .exportSpecifiers _, tail, code, h => absurd h lowerStatement_exportSpecifiers

/-- **A list of statements takes at most three instructions for each of its nodes,** wherever it
    stands; what is never run takes none. -/
theorem codeSize_lowerStatements_le : ∀ (body : List Statement) {tail : Bool}
    {code : List Instruction},
    lowerStatements scope tail body = .ok code → codeSize code ≤ 3 * bodyNodes body
  | [], tail, code, h => by
    rw [lowerStatements_nil] at h
    rw [h]
    exact Nat.le_refl 0
  | statement :: rest, tail, code, h => by
    cases ends : statement.isReturn with
    | true =>
      obtain ⟨argument, rfl⟩ := exists_of_isReturn ends
      have bound := codeSize_lowerStatement_le (.returnValue argument) (lowerStatements_return.mp h)
      simp only [bodyNodes]
      omega
    | false =>
      obtain ⟨first, others, onFirst, onRest, rfl⟩ := (lowerStatements_cons ends).mp h
      have bound := codeSize_lowerStatement_le statement onFirst
      have others := codeSize_lowerStatements_le rest onRest
      simp only [codeSize_append, bodyNodes]
      omega
end

end Statements

/-! ## 4. Functions -/

/-- The block around a body is one instruction, and so is the result. -/
theorem codeSize_closeBody_le (code : List Instruction) :
    codeSize (closeBody code) ≤ codeSize code + 2 := by
  unfold closeBody
  split
  · simp only [codeSize_append, codeSize_cons, codeSize_nil, Instruction.size]
    omega
  · simp only [codeSize_append, codeSize_cons, codeSize_nil, Instruction.size]
    omega

/-- **In every lowered function the size of the code is linear in the size of the source.** -/
theorem codeSize_le_of_lower {width : Wat.FloatWidth} {program : Program} {module : Wat.Module}
    (h : lower width program = .ok module) :
    List.Forall₂ (fun function lowered => codeSize lowered.body ≤ 3 * bodyNodes function.body + 2)
      program.declarations module.functions := by
  obtain ⟨_, _, functions, _⟩ := lower_eq_ok h
  refine functions.imp fun function lowered eq => ?_
  obtain ⟨_, _, _, code, body, rfl⟩ := lowerFunction_eq_ok.mp eq
  calc codeSize (closeBody code) ≤ codeSize code + 2 := codeSize_closeBody_le code
    _ ≤ 3 * bodyNodes function.body + 2 :=
      Nat.add_le_add_right (codeSize_lowerStatements_le function.body body) 2

/-- A function that can be left at two places inside nested conditions, neither of them at its end. -/
def nestedReturns : Program where
  body :=
    [.function "f" ["c", "d"]
      [.ifElse (.var "c")
          [.ifElse (.binary .less (.var "c") (.var "d")) [.returnValue (.var "c")] []]
          [.ifElse (.var "d") [] [.returnValue (.number Binary64.zero)]],
        .expression (.call "__error__" []),
        .returnValue (.unary .plus (.var "d"))]]

theorem codeSize_nestedReturns : ∃ function lowered, nestedReturns.declarations = [function] ∧
    lower .f32 nestedReturns = .ok ⟨.f32, [lowered], []⟩ ∧
    bodyNodes function.body = 17 ∧ codeSize lowered.body = 25 ∧
    codeSize lowered.body ≤ 3 * bodyNodes function.body + 2 := by
  obtain ⟨lowered, eq, size⟩ : ∃ lowered, lower .f32 nestedReturns = .ok ⟨.f32, [lowered], []⟩ ∧
      codeSize lowered.body = 25 := ⟨_, (lower_eq ..).trans rfl, rfl⟩
  have bounds := codeSize_le_of_lower eq
  cases bounds with
  | cons bound _ => exact ⟨_, lowered, rfl, eq, rfl, size, bound⟩

end NumScript
