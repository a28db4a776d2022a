import NumScript.Proofs.Lowering.Inversion
import NumScript.Proofs.Wat.Typing

/-!
# Lowered modules are valid

The code of an expression leaves one float more on the stack, and the code of statements leaves the
stack as it was. So the body of a function leaves the result alone. This holds of every tree that is
lowered at all, whether a script says it or not.

A `br` needs a block around it. It occurs only in code that branches, and exactly such code is put in
a block (`typed_closeBody`); this is why the facts about statements ask for the exit label only if
their code branches.
-/

namespace NumScript

open Wat (Instruction BodyTyped ValueType)

/-! ## 1. Code -/

/-- Everything that the code of a body can refer to is there. -/
structure Admits (Γ : Wat.Context) (scope : Scope) : Prop where
  /-- The parameters and variables. -/
  slots : ∀ name ∈ scope.slots, name ∈ Γ.slots
  /-- The result slot. -/
  result : Wat.resultSlot ∈ Γ.slots
  /-- The functions. -/
  functions : ∀ name arity, scope.signatures.lookup name = some arity →
    name ≠ Wat.logFunction ∧ Γ.arity? name = some arity

section Code

variable {Γ : Wat.Context} {scope : Scope} {code : List Instruction}

theorem typed_float_arithmetic {op : BinaryOperator} (arithmetic : op.isRelational = false)
    (stack : List ValueType) :
    BodyTyped Γ [.float (floatOperation op)] (.float :: .float :: stack) (.float :: stack) := by
  cases op with
  | add | subtract | multiply | divide => exact (Wat.InstructionTyped.float _).single
  | less | greater | lessEqual | greaterEqual | equal | notEqual => cases arithmetic

theorem typed_float_comparison {op : BinaryOperator} (relational : op.isRelational = true)
    (stack : List ValueType) :
    BodyTyped Γ [.float (floatOperation op)] (.float :: .float :: stack) (.i32 :: stack) := by
  cases op with
  | add | subtract | multiply | divide => cases relational
  | less | greater | lessEqual | greaterEqual | equal | notEqual =>
    exact (Wat.InstructionTyped.float _).single

theorem typed_unaryInstructions (op : UnaryOperator) (stack : List ValueType) :
    BodyTyped Γ (unaryInstructions op) (.float :: stack) (.float :: stack) := by
  cases op with
  | plus => exact .nil
  | negate => exact (Wat.InstructionTyped.float .neg).single

theorem typed_callInstruction (admits : Admits Γ scope) {callee : String} {arity : Nat}
    (known : scope.arity? callee = some arity) (stack : List ValueType) :
    BodyTyped Γ [callInstruction callee] (Wat.floats arity stack) (.float :: stack) := by
  unfold Scope.arity? at known
  unfold callInstruction
  split at known
  · rename_i root
    cases known
    rw [if_pos root]
    exact (Wat.InstructionTyped.float .sqrt).single
  · rename_i root
    obtain ⟨notLog, found⟩ := admits.functions callee arity known
    rw [if_neg root]
    exact (Wat.InstructionTyped.call notLog found).single

mutual
/-- **The code of an expression leaves one float more.** -/
theorem typed_lowerExpression (admits : Admits Γ scope) : ∀ (value : Expression)
    {code : List Instruction}, lowerExpression scope value = .ok code →
    ∀ stack, BodyTyped Γ code stack (.float :: stack)
  | .number value, code, h, stack => by
    rw [lowerExpression_number] at h
    subst h
    exact (Wat.InstructionTyped.const value).single
  | .var name, code, h, stack => by
    obtain ⟨mem, rfl⟩ := lowerExpression_var.mp h
    exact (Wat.InstructionTyped.localGet (admits.slots name mem)).single
  | .binary op left right, code, h, stack => by
    obtain ⟨arithmetic, first, second, onLeft, onRight, rfl⟩ := lowerExpression_binary.mp h
    exact ((typed_lowerExpression admits left onLeft stack).append
      (typed_lowerExpression admits right onRight _)).append (typed_float_arithmetic arithmetic stack)
  | .unary op operand, code, h, stack => by
    obtain ⟨inner, lowered, rfl⟩ := lowerExpression_unary.mp h
    exact (typed_lowerExpression admits operand lowered stack).append
      (typed_unaryInstructions op stack)
  | .call callee arguments, code, h, stack => by
    obtain ⟨_, arity, inner, lowered, rfl⟩ := lowerExpression_call.mp h
    exact (typed_lowerArguments admits arguments lowered stack).append
      (typed_callInstruction admits arity stack)
  | .assign target value, code, h, stack => absurd h lowerExpression_assign

/-- The code of arguments leaves as many floats as there are arguments. -/
theorem typed_lowerArguments (admits : Admits Γ scope) : ∀ (arguments : List Expression)
    {code : List Instruction}, lowerArguments scope arguments = .ok code →
    ∀ stack, BodyTyped Γ code stack (Wat.floats arguments.length stack)
  | [], code, h, stack => by
    rw [lowerArguments_nil] at h
    subst h
    exact .nil
  | argument :: rest, code, h, stack => by
    obtain ⟨first, others, onFirst, onRest, rfl⟩ := lowerArguments_cons.mp h
    have one := typed_lowerExpression admits argument onFirst stack
    have more := typed_lowerArguments admits rest onRest (.float :: stack)
    have count : Wat.floats rest.length (.float :: stack) =
        Wat.floats (argument :: rest).length stack := by
      rw [Wat.floats, Wat.floats, List.length_cons, List.replicate_succ', List.append_assoc]
      rfl
    rw [count] at more
    exact one.append more
end

/-- The code of a test leaves one integer more. -/
theorem typed_lowerCondition (admits : Admits Γ scope) {test : Expression}
    (h : lowerCondition scope test = .ok code) (stack : List ValueType) :
    BodyTyped Γ code stack (.i32 :: stack) := by
  obtain ⟨op, left, right, first, second, rfl, relational, onLeft, onRight, rfl⟩ |
    ⟨inner, lowered, rfl⟩ := lowerCondition_eq_ok.mp h
  · exact ((typed_lowerExpression admits left onLeft stack).append
      (typed_lowerExpression admits right onRight _)).append (typed_float_comparison relational stack)
  · refine (typed_lowerExpression admits test lowered stack).append ?_
    exact .cons (.const Binary64.zero) (Wat.InstructionTyped.float .ne).single

theorem typed_lowerEffect (admits : Admits Γ scope) {value : Expression}
    (h : lowerEffect scope value = .ok code) (stack : List ValueType) :
    BodyTyped Γ code stack stack := by
  obtain ⟨target, source, inner, rfl, lowered, mem, rfl⟩ | ⟨rfl, rfl⟩ | ⟨inner, lowered, rfl⟩ :=
    lowerEffect_eq_ok.mp h
  · exact (typed_lowerExpression admits source lowered stack).append
      (Wat.InstructionTyped.localSet (admits.slots target mem)).single
  · exact .cons (.i32Const _) (.cons (.i32Const _) Wat.InstructionTyped.log.single)
  · exact (typed_lowerExpression admits value lowered stack).append Wat.InstructionTyped.drop.single

mutual
theorem typed_lowerStatement (admits : Admits Γ scope) : ∀ (statement : Statement) {tail : Bool}
    {code : List Instruction}, lowerStatement scope tail statement = .ok code →
    (∀ name ∈ statement.varNames, name ∈ scope.slots) →
    (Wat.anyBranches code = true → Wat.exitLabel ∈ Γ.labels) →
    ∀ stack, BodyTyped Γ code stack stack
  | .returnValue argument, tail, code, h, _, label, stack => by
    obtain ⟨inner, lowered, rfl⟩ := lowerStatement_return.mp h
    refine (typed_lowerExpression admits argument lowered stack).append
      (.cons (.localSet admits.result) ?_)
    cases tail with
    | true => exact .nil
    | false =>
      refine (Wat.InstructionTyped.br (label ?_)).single
      rw [anyBranches_append, Bool.or_eq_true]
      exact .inr rfl
  | .ifElse test consequent alternate, tail, code, h, declared, label, stack => by
    obtain ⟨inner, first, second, onTest, onFirst, onSecond, rfl⟩ := lowerStatement_ifElse.mp h
    rw [Statement.varNames] at declared
    have arms : Wat.anyBranches first = true ∨ Wat.anyBranches second = true →
        Wat.exitLabel ∈ Γ.labels := by
      intro branches
      refine label ?_
      rw [anyBranches_append, Wat.anyBranches, Wat.Instruction.branches]
      rcases branches with branches | branches <;> simp [branches]
    have yes := typed_lowerStatements admits consequent onFirst
      (fun name mem => declared name (List.mem_append_left _ mem)) (fun h => arms (.inl h)) []
    have no := typed_lowerStatements admits alternate onSecond
      (fun name mem => declared name (List.mem_append_right _ mem)) (fun h => arms (.inr h)) []
    exact (typed_lowerCondition admits onTest stack).append
      (Wat.InstructionTyped.ifElse yes no).single
  | .variableDeclaration name none, tail, code, h, _, _, stack => by
    rw [lowerStatement_declaration] at h
    subst h
    exact .nil
  | .variableDeclaration name (some init), tail, code, h, declared, _, stack => by
    obtain ⟨inner, lowered, rfl⟩ := lowerStatement_initialized.mp h
    have mem : name ∈ scope.slots :=
      declared name (by rw [Statement.varNames]; exact List.mem_singleton_self name)
    exact (typed_lowerExpression admits init lowered stack).append
      (Wat.InstructionTyped.localSet (admits.slots name mem)).single
  | .expression value, tail, code, h, _, _, stack => by
    rw [lowerStatement_expression] at h
    exact typed_lowerEffect admits h stack
  | .function _ _ _, _, _, h, _, _, _ => absurd h lowerStatement_function
  | .exportFunction _ _ _, _, _, h, _, _, _ => absurd h lowerStatement_exportFunction
  | .exportSpecifiers _, _, _, h, _, _, _ => absurd h lowerStatement_exportSpecifiers

/-- **The code of statements leaves the stack as it was.** -/
theorem typed_lowerStatements (admits : Admits Γ scope) : ∀ (body : List Statement) {tail : Bool}
    {code : List Instruction}, lowerStatements scope tail body = .ok code →
    (∀ name ∈ varNamesOf body, name ∈ scope.slots) →
    (Wat.anyBranches code = true → Wat.exitLabel ∈ Γ.labels) →
    ∀ stack, BodyTyped Γ code stack stack
  | [], tail, code, h, _, _, stack => by
    rw [lowerStatements_nil] at h
    subst h
    exact .nil
  | statement :: rest, tail, code, h, declared, label, stack => by
    rw [varNamesOf] at declared
    have here : ∀ name ∈ statement.varNames, name ∈ scope.slots :=
      fun name mem => declared name (List.mem_append_left _ mem)
    have later : ∀ name ∈ varNamesOf rest, name ∈ scope.slots :=
      fun name mem => declared name (List.mem_append_right _ mem)
    cases ends : statement.isReturn with
    | true =>
      obtain ⟨argument, rfl⟩ := exists_of_isReturn ends
      exact typed_lowerStatement admits _ (lowerStatements_return.mp h) here label stack
    | false =>
      obtain ⟨first, others, onFirst, onRest, rfl⟩ := (lowerStatements_cons ends).mp h
      rw [anyBranches_append, Bool.or_eq_true] at label
      exact (typed_lowerStatement admits statement onFirst here (fun h => label (.inl h)) stack).append
        (typed_lowerStatements admits rest onRest later (fun h => label (.inr h)) stack)
end

/-- Inside a block all that was there is there. -/
theorem Admits.inside (admits : Admits Γ scope) (label : String) : Admits (Γ.inside label) scope :=
  ⟨admits.slots, admits.result, admits.functions⟩

/-- **A closed body leaves exactly its result**: what branches stands in a block with the exit
    label. -/
theorem typed_closeBody (admits : Admits Γ scope) {body : List Statement}
    (h : lowerStatements scope true body = .ok code)
    (declared : ∀ name ∈ varNamesOf body, name ∈ scope.slots) :
    BodyTyped Γ (closeBody code) [] [.float] := by
  unfold closeBody
  refine .append ?_ (Wat.InstructionTyped.localGet admits.result).single
  cases branches : Wat.anyBranches code with
  | true =>
    rw [if_pos rfl]
    exact (Wat.InstructionTyped.block (typed_lowerStatements (admits.inside Wat.exitLabel) body h
      declared (fun _ => List.mem_cons_self) [])).single
  | false =>
    rw [if_neg Bool.false_ne_true]
    refine typed_lowerStatements admits body h declared (fun yes => ?_) []
    rw [branches] at yes
    cases yes

end Code

/-! ## 2. Modules -/

theorem names_lowered {signatures : List (String × Nat)} :
    ∀ {functions : List FunctionDeclaration} {lowered : List Wat.Function},
    List.Forall₂ (fun function lowered => lowerFunction signatures function = .ok lowered)
      functions lowered →
    lowered.map Wat.Function.name = functions.map FunctionDeclaration.name
  | _, _, .nil => rfl
  | _, _, .cons eq rest => by
    rw [List.map_cons, List.map_cons, names_lowered rest, (name_of_lowerFunction eq).1]

/-- Every function of a module was lowered from a function of the program. -/
theorem exists_declared {signatures : List (String × Nat)} :
    ∀ {functions : List FunctionDeclaration} {lowered : List Wat.Function},
    List.Forall₂ (fun function lowered => lowerFunction signatures function = .ok lowered)
      functions lowered →
    ∀ {result : Wat.Function}, result ∈ lowered →
    ∃ function ∈ functions, lowerFunction signatures function = .ok result
  | _, _, .cons (a := function) eq rest, result, mem => by
    rcases List.mem_cons.mp mem with rfl | mem
    · exact ⟨function, List.mem_cons_self, eq⟩
    · obtain ⟨other, mem, eq⟩ := exists_declared rest mem
      exact ⟨other, List.mem_cons_of_mem _ mem, eq⟩

/-- The slots of a lowered function have different names. -/
theorem nodup_slots {signatures : List (String × Nat)} {function : FunctionDeclaration}
    {lowered : Wat.Function} (h : lowerFunction signatures function = .ok lowered) :
    (lowered.params ++ lowered.locals ++ [Wat.resultSlot]).Nodup := by
  obtain ⟨notParam, distinct, notVar, code, _, rfl⟩ := lowerFunction_eq_ok.mp h
  rw [List.nodup_append, List.nodup_append]
  refine ⟨⟨distinct, (nodup_firstOccurrences _).filter _, ?_⟩, List.pairwise_singleton _ _, ?_⟩
  · rintro param isParam _ isLocal rfl
    exact (mem_locals.mp isLocal).2 isParam
  · rintro name mem _ isResult rfl
    rw [List.mem_singleton.mp isResult, List.mem_append] at mem
    rcases mem with isParam | isLocal
    · exact notParam isParam
    · exact notVar (mem_locals.mp isLocal).1

/-- What the body of a lowered function refers to is in the module. -/
theorem admits_context {width : Wat.FloatWidth} {program : Program} {module : Wat.Module}
    (h : lower width program = .ok module) {function : FunctionDeclaration} {lowered : Wat.Function}
    (eq : lowerFunction (program.declarations.map FunctionDeclaration.signature) function =
      .ok lowered) :
    Admits (module.context lowered)
      (function.scope (program.declarations.map FunctionDeclaration.signature)) := by
  obtain ⟨_, _, _, code, _, rfl⟩ := lowerFunction_eq_ok.mp eq
  refine ⟨fun name mem => List.mem_append_left _ mem,
    List.mem_append_right _ (List.mem_singleton_self _), fun name arity known => ?_⟩
  obtain ⟨notLog, _, target, _, found, _, params⟩ := exists_lowered h known
  refine ⟨notLog, ?_⟩
  show (module.function? name).map _ = _
  rw [found, Option.map_some, params]

/-- **Every module that is lowered is valid.** Its bodies are typed, each slot, function and export
    has a name of its own, and whatever is called, exported, read or set is there. -/
theorem valid_of_lower {width : Wat.FloatWidth} {program : Program} {module : Wat.Module}
    (h : lower width program = .ok module) : module.Valid := by
  obtain ⟨distinct, free, functions, _, exportable⟩ := lower_eq_ok h
  refine ⟨?_, ?_, ?_, ?_, ?_, exportable.distinct⟩
  · intro lowered mem
    obtain ⟨function, _, eq⟩ := exists_declared functions mem
    obtain ⟨_, _, _, code, body, same⟩ := lowerFunction_eq_ok.mp eq
    have closed : lowered.body = closeBody code := by rw [same]
    rw [closed]
    exact typed_closeBody (admits_context h eq) body fun name mem => mem_scope_slots.mpr (.inr mem)
  · intro lowered mem
    obtain ⟨function, _, eq⟩ := exists_declared functions mem
    exact nodup_slots eq
  · rw [names_lowered functions]
    exact distinct
  · intro lowered mem isLog
    obtain ⟨function, declared, eq⟩ := exists_declared functions mem
    rw [(name_of_lowerFunction eq).1] at isLog
    refine free function declared ?_
    rw [isLog]
    exact List.mem_cons_self
  · intro item mem
    obtain ⟨arity, known⟩ := Option.isSome_iff_exists.mp (exportable.known item mem)
    obtain ⟨_, _, target, _, found, _⟩ := exists_lowered h known
    have named := List.find?_some found
    rw [decide_eq_true_eq] at named
    exact ⟨target, List.mem_of_find?_eq_some found, named⟩

/-- A test that is no comparison, a return out of the middle and a call of a later function. -/
def earlyReturnProgram : Program where
  body :=
    [.exportFunction "f" ["x"]
      [.ifElse (.var "x") [.returnValue (.unary .negate (.var "x"))]
        [.expression (.call faultFunction []), .variableDeclaration "y" (some (.var "x"))],
        .expression (.call "g" [.var "y", .call sqrtFunction [.var "x"]])],
      .function "g" ["a", "b"] [],
      .exportSpecifiers [⟨"g", "h"⟩]]

theorem valid_earlyReturn : ∃ module, lower .f32 earlyReturnProgram = .ok module ∧ module.Valid := by
  obtain ⟨module, lowered⟩ : ∃ module, lower .f32 earlyReturnProgram = .ok module :=
    ⟨_, (lower_eq ..).trans rfl⟩
  exact ⟨module, lowered, valid_of_lower lowered⟩

end NumScript
