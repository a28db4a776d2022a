import Mathlib.Data.List.Forall2
import NumScript.Proofs.Lowering.Emission
import NumScript.Proofs.Semantics.Evaluation
import NumScript.Proofs.Semantics.Machine

/-!
# What a successful lowering says

Each function of the lowering either gives its result or an error. For each of them this file says
what is known when it gives a result: which parts were lowered, and how the result is put together.
Proofs about lowered code start from these facts and do not open the lowering itself.

The main statement is `lower_eq_ok`: in a module that was lowered there is one function for each
function that the program declares, in the same order.
-/

namespace NumScript

open Wat (Instruction)

theorem except_bind_eq_ok {ε α β : Type} {first : Except ε α} {next : α → Except ε β} {result : β} :
    (first >>= next) = .ok result ↔ ∃ value, first = .ok value ∧ next value = .ok result := by
  cases first with
  | error error => simp [bind, Except.bind]
  | ok value => simp [bind, Except.bind]

theorem except_pure_eq_ok {ε α : Type} {value result : α} :
    (pure value : Except ε α) = .ok result ↔ result = value := by
  simp only [pure, Except.pure, Except.ok.injEq]
  exact eq_comm

/-! ## 1. Names -/

theorem resolve_eq_ok {scope : Scope} {name slot : String} :
    scope.resolve name = .ok slot ↔ name ∈ scope.slots ∧ slot = name := by
  unfold Scope.resolve
  split
  · rename_i mem
    simp only [Except.ok.injEq, mem, true_and]
    exact eq_comm
  · rename_i mem
    simp [mem]

theorem checkCall_eq_ok {scope : Scope} {callee : String} {given : Nat} :
    scope.checkCall callee given = .ok () ↔
      callee ≠ faultFunction ∧ scope.arity? callee = some given := by
  unfold Scope.checkCall
  split
  · rename_i fault
    simp [fault]
  · rename_i fault
    split
    · rename_i unknown
      simp [unknown]
    · rename_i expected known
      by_cases same : given = expected
      · simp [fault, known, same]
      · simp only [known, if_neg same, reduceCtorEq, Option.some.injEq, false_iff, not_and]
        exact fun _ => Ne.symm same

/-! ## 2. Expressions -/

section Expressions

variable {scope : Scope} {code : List Instruction}

theorem lowerExpression_number {value : Binary64} :
    lowerExpression scope (.number value) = .ok code ↔ code = [.const value] := by
  rw [lowerExpression, Except.ok.injEq]
  exact eq_comm

theorem lowerExpression_var {name : String} :
    lowerExpression scope (.var name) = .ok code ↔
      name ∈ scope.slots ∧ code = [.localGet name] := by
  simp only [lowerExpression, except_bind_eq_ok, except_pure_eq_ok, resolve_eq_ok]
  constructor
  · intro h
    obtain ⟨_, ⟨mem, rfl⟩, rfl⟩ := h
    exact ⟨mem, rfl⟩
  · intro h
    obtain ⟨mem, rfl⟩ := h
    exact ⟨name, ⟨mem, rfl⟩, rfl⟩

theorem lowerExpression_binary {op : BinaryOperator} {left right : Expression} :
    lowerExpression scope (.binary op left right) = .ok code ↔
      op.isRelational = false ∧ ∃ first second, lowerExpression scope left = .ok first ∧
        lowerExpression scope right = .ok second ∧
        code = first ++ second ++ [.float (floatOperation op)] := by
  rw [lowerExpression]
  split
  · rename_i relational
    simp [relational]
  · rename_i arithmetic
    simp only [except_bind_eq_ok, except_pure_eq_ok, Bool.not_eq_true] at arithmetic ⊢
    constructor
    · intro h
      obtain ⟨first, onLeft, second, onRight, rfl⟩ := h
      exact ⟨arithmetic, first, second, onLeft, onRight, rfl⟩
    · intro h
      obtain ⟨_, first, second, onLeft, onRight, rfl⟩ := h
      exact ⟨first, onLeft, second, onRight, rfl⟩

theorem lowerExpression_unary {op : UnaryOperator} {operand : Expression} :
    lowerExpression scope (.unary op operand) = .ok code ↔
      ∃ inner, lowerExpression scope operand = .ok inner ∧ code = inner ++ unaryInstructions op := by
  simp only [lowerExpression, except_bind_eq_ok, except_pure_eq_ok]

theorem lowerExpression_call {callee : String} {arguments : List Expression} :
    lowerExpression scope (.call callee arguments) = .ok code ↔
      callee ≠ faultFunction ∧ scope.arity? callee = some arguments.length ∧
        ∃ inner, lowerArguments scope arguments = .ok inner ∧
          code = inner ++ [callInstruction callee] := by
  simp only [lowerExpression, except_bind_eq_ok, except_pure_eq_ok]
  constructor
  · intro h
    obtain ⟨_, checked, inner, lowered, rfl⟩ := h
    obtain ⟨notFault, arity⟩ := checkCall_eq_ok.mp checked
    exact ⟨notFault, arity, inner, lowered, rfl⟩
  · intro h
    obtain ⟨notFault, arity, inner, lowered, rfl⟩ := h
    exact ⟨(), checkCall_eq_ok.mpr ⟨notFault, arity⟩, inner, lowered, rfl⟩

theorem lowerExpression_assign {target : String} {value : Expression} :
    ¬ lowerExpression scope (.assign target value) = .ok code := by
  rw [lowerExpression]
  intro lowered
  cases lowered

theorem lowerArguments_nil : lowerArguments scope [] = .ok code ↔ code = [] := by
  rw [lowerArguments, Except.ok.injEq]
  exact eq_comm

theorem lowerArguments_cons {argument : Expression} {rest : List Expression} :
    lowerArguments scope (argument :: rest) = .ok code ↔
      ∃ first others, lowerExpression scope argument = .ok first ∧
        lowerArguments scope rest = .ok others ∧ code = first ++ others := by
  simp only [lowerArguments, except_bind_eq_ok, except_pure_eq_ok]
  constructor
  · intro h
    obtain ⟨first, onFirst, others, onRest, rfl⟩ := h
    exact ⟨first, others, onFirst, onRest, rfl⟩
  · intro h
    obtain ⟨first, others, onFirst, onRest, rfl⟩ := h
    exact ⟨first, onFirst, others, onRest, rfl⟩

/-- A test is a comparison of two numbers, or one number that is compared with zero. -/
theorem lowerCondition_eq_ok {test : Expression} :
    lowerCondition scope test = .ok code ↔
      (∃ op left right first second, test = .binary op left right ∧ op.isRelational = true ∧
        lowerExpression scope left = .ok first ∧ lowerExpression scope right = .ok second ∧
        code = first ++ second ++ [.float (floatOperation op)]) ∨
      (∃ inner, lowerExpression scope test = .ok inner ∧
        code = inner ++ [.const Binary64.zero, .float .ne]) := by
  have fallback : (do
      let inner ← lowerExpression scope test
      pure (inner ++ [Instruction.const Binary64.zero, .float .ne])) = Except.ok code ↔
      ∃ inner, lowerExpression scope test = .ok inner ∧
        code = inner ++ [.const Binary64.zero, .float .ne] := by
    simp only [except_bind_eq_ok, except_pure_eq_ok]
  unfold lowerCondition
  split
  · rename_i op left right
    split
    · rename_i relational
      simp only [except_bind_eq_ok, except_pure_eq_ok]
      constructor
      · intro h
        obtain ⟨first, onLeft, second, onRight, rfl⟩ := h
        exact .inl ⟨op, left, right, first, second, rfl, relational, onLeft, onRight, rfl⟩
      · intro h
        rcases h with ⟨_, _, _, first, second, same, _, onLeft, onRight, rfl⟩ | ⟨inner, lowered, _⟩
        · cases same
          exact ⟨first, onLeft, second, onRight, rfl⟩
        · rw [(lowerExpression_binary.mp lowered).1] at relational
          cases relational
    · rename_i arithmetic
      rw [fallback]
      refine ⟨.inr, ?_⟩
      intro h
      rcases h with ⟨_, _, _, _, _, same, relational, _⟩ | lowered
      · cases same
        exact absurd relational arithmetic
      · exact lowered
  · rename_i other
    rw [fallback]
    refine ⟨.inr, ?_⟩
    intro h
    rcases h with ⟨op, left, right, _, _, same, _⟩ | lowered
    · exact absurd same (other op left right)
    · exact lowered

end Expressions

/-! ## 3. Statements -/

section Statements

variable {scope : Scope} {tail : Bool} {code : List Instruction}

/-- An expression that is a statement is an assignment, a fault, or a number that is dropped. -/
theorem lowerEffect_eq_ok {value : Expression} :
    lowerEffect scope value = .ok code ↔
      (∃ target source inner, value = .assign target source ∧
        lowerExpression scope source = .ok inner ∧ target ∈ scope.slots ∧
        code = inner ++ [.localSet target]) ∨
      (value = .call faultFunction [] ∧ code = faultInstructions) ∨
      (∃ inner, lowerExpression scope value = .ok inner ∧ code = inner ++ [.drop]) := by
  have dropped : (do
      let inner ← lowerExpression scope value
      pure (inner ++ [Instruction.drop])) = Except.ok code ↔
      ∃ inner, lowerExpression scope value = .ok inner ∧ code = inner ++ [.drop] := by
    simp only [except_bind_eq_ok, except_pure_eq_ok]
  unfold lowerEffect
  split
  · rename_i target source
    simp only [except_bind_eq_ok, except_pure_eq_ok, resolve_eq_ok]
    constructor
    · intro h
      obtain ⟨inner, lowered, _, ⟨mem, rfl⟩, rfl⟩ := h
      exact .inl ⟨_, source, inner, rfl, lowered, mem, rfl⟩
    · intro h
      rcases h with ⟨_, _, inner, same, lowered, mem, rfl⟩ | ⟨same, _⟩ | ⟨inner, lowered, _⟩
      · cases same
        exact ⟨inner, lowered, _, ⟨mem, rfl⟩, rfl⟩
      · cases same
      · exact absurd lowered lowerExpression_assign
  · rename_i callee arguments
    split
    · rename_i fault
      cases arguments with
      | nil =>
        rw [List.isEmpty_nil, if_pos rfl, Except.ok.injEq, eq_comm]
        constructor
        · rintro rfl
          exact .inr (.inl ⟨by rw [fault], rfl⟩)
        · intro h
          rcases h with ⟨_, _, _, same, _⟩ | ⟨_, same⟩ | ⟨_, lowered, _⟩
          · cases same
          · exact same
          · exact absurd fault (lowerExpression_call.mp lowered).1
      | cons argument rest =>
        rw [List.isEmpty_cons, if_neg Bool.false_ne_true]
        refine ⟨nofun, ?_⟩
        intro h
        rcases h with ⟨_, _, _, same, _⟩ | ⟨same, _⟩ | ⟨_, lowered, _⟩
        · cases same
        · cases same
        · exact absurd fault (lowerExpression_call.mp lowered).1
    · rename_i fault
      rw [dropped]
      refine ⟨fun lowered => .inr (.inr lowered), ?_⟩
      intro h
      rcases h with ⟨_, _, _, same, _⟩ | ⟨same, _⟩ | lowered
      · cases same
      · cases same
        exact absurd rfl fault
      · exact lowered
  · rename_i notAssign notCall
    rw [dropped]
    refine ⟨fun lowered => .inr (.inr lowered), ?_⟩
    intro h
    rcases h with ⟨target, source, _, same, _⟩ | ⟨same, _⟩ | lowered
    · exact absurd same (notAssign target source)
    · exact absurd same (notCall _ _)
    · exact lowered

theorem lowerStatement_return {argument : Expression} :
    lowerStatement scope tail (.returnValue argument) = .ok code ↔
      ∃ inner, lowerExpression scope argument = .ok inner ∧
        code = inner ++ .localSet Wat.resultSlot :: if tail then [] else [.br Wat.exitLabel] := by
  simp only [lowerStatement, except_bind_eq_ok, except_pure_eq_ok]

theorem lowerStatement_ifElse {test : Expression} {consequent alternate : List Statement} :
    lowerStatement scope tail (.ifElse test consequent alternate) = .ok code ↔
      ∃ inner first second, lowerCondition scope test = .ok inner ∧
        lowerStatements scope tail consequent = .ok first ∧
        lowerStatements scope tail alternate = .ok second ∧
        code = inner ++ [.ifElse first second] := by
  simp only [lowerStatement, except_bind_eq_ok, except_pure_eq_ok]
  constructor
  · intro h
    obtain ⟨inner, onTest, first, onFirst, second, onSecond, rfl⟩ := h
    exact ⟨inner, first, second, onTest, onFirst, onSecond, rfl⟩
  · intro h
    obtain ⟨inner, first, second, onTest, onFirst, onSecond, rfl⟩ := h
    exact ⟨inner, onTest, first, onFirst, second, onSecond, rfl⟩

theorem lowerStatement_declaration {name : String} :
    lowerStatement scope tail (.variableDeclaration name none) = .ok code ↔ code = [] := by
  rw [lowerStatement, Except.ok.injEq]
  exact eq_comm

theorem lowerStatement_initialized {name : String} {init : Expression} :
    lowerStatement scope tail (.variableDeclaration name (some init)) = .ok code ↔
      ∃ inner, lowerExpression scope init = .ok inner ∧ code = inner ++ [.localSet name] := by
  simp only [lowerStatement, except_bind_eq_ok, except_pure_eq_ok]

theorem lowerStatement_expression {value : Expression} :
    lowerStatement scope tail (.expression value) = .ok code ↔ lowerEffect scope value = .ok code := by
  rw [lowerStatement]

theorem lowerStatement_function {name : String} {params : List String} {body : List Statement} :
    ¬ lowerStatement scope tail (.function name params body) = .ok code := by
  rw [lowerStatement]
  intro lowered
  cases lowered

theorem lowerStatement_exportFunction {name : String} {params : List String}
    {body : List Statement} :
    ¬ lowerStatement scope tail (.exportFunction name params body) = .ok code := by
  rw [lowerStatement]
  intro lowered
  cases lowered

theorem lowerStatement_exportSpecifiers {specifiers : List ExportSpecifier} :
    ¬ lowerStatement scope tail (.exportSpecifiers specifiers) = .ok code := by
  rw [lowerStatement]
  intro lowered
  cases lowered

theorem exists_of_isReturn {statement : Statement} (ends : statement.isReturn = true) :
    ∃ argument, statement = .returnValue argument := by
  cases statement with
  | returnValue argument => exact ⟨argument, rfl⟩
  | _ => cases ends

theorem lowerStatements_nil : lowerStatements scope tail [] = .ok code ↔ code = [] := by
  rw [lowerStatements, Except.ok.injEq]
  exact eq_comm

/-- What follows a `return` is not lowered. -/
theorem lowerStatements_return {argument : Expression} {rest : List Statement} :
    lowerStatements scope tail (.returnValue argument :: rest) = .ok code ↔
      lowerStatement scope tail (.returnValue argument) = .ok code := by
  rw [lowerStatements, Statement.isReturn, if_pos rfl]

theorem lowerStatements_cons {statement : Statement} {rest : List Statement}
    (goesOn : statement.isReturn = false) :
    lowerStatements scope tail (statement :: rest) = .ok code ↔
      ∃ first others, lowerStatement scope (tail && rest.isEmpty) statement = .ok first ∧
        lowerStatements scope tail rest = .ok others ∧ code = first ++ others := by
  rw [lowerStatements, goesOn, if_neg Bool.false_ne_true]
  simp only [except_bind_eq_ok, except_pure_eq_ok]
  constructor
  · intro h
    obtain ⟨first, onFirst, others, onRest, rfl⟩ := h
    exact ⟨first, others, onFirst, onRest, rfl⟩
  · intro h
    obtain ⟨first, others, onFirst, onRest, rfl⟩ := h
    exact ⟨first, onFirst, others, onRest, rfl⟩

end Statements

/-! ## 4. Functions -/

/-- The variables of a function that are not parameters, each once. -/
def FunctionDeclaration.locals (function : FunctionDeclaration) : List String :=
  (firstOccurrences (varNamesOf function.body)).filter fun name => !function.params.contains name

/-- The names that the body of a function may refer to. -/
def FunctionDeclaration.scope (signatures : List (String × Nat)) (function : FunctionDeclaration) :
    Scope := ⟨signatures, function.params ++ function.locals⟩

theorem mem_locals {function : FunctionDeclaration} {name : String} :
    name ∈ function.locals ↔ name ∈ varNamesOf function.body ∧ name ∉ function.params := by
  simp [FunctionDeclaration.locals]

theorem mem_scope_slots {signatures : List (String × Nat)} {function : FunctionDeclaration}
    {name : String} : name ∈ (function.scope signatures).slots ↔
      name ∈ function.params ∨ name ∈ varNamesOf function.body := by
  simp only [FunctionDeclaration.scope, List.mem_append, mem_locals]
  by_cases param : name ∈ function.params
  · simp [param]
  · simp [param]

theorem checkParams_eq_ok {function : String} : ∀ {params seen : List String},
    checkParams function seen params = .ok () ↔
      Wat.resultSlot ∉ params ∧ params.Nodup ∧ ∀ param ∈ params, param ∉ seen
  | [], seen => by simp [checkParams]
  | param :: rest, seen => by
    rw [checkParams]
    split
    · rename_i reserved
      simp [reserved]
    · rename_i reserved
      split
      · rename_i repeated
        simp [repeated]
      · rename_i fresh
        rw [checkParams_eq_ok, List.nodup_cons, List.mem_cons, List.forall_mem_cons]
        constructor
        · intro h
          obtain ⟨slot, distinct, unseen⟩ := h
          refine ⟨?_, ⟨fun mem => unseen param mem List.mem_cons_self, distinct⟩, fresh,
            fun other mem seen => unseen other mem (List.mem_cons_of_mem _ seen)⟩
          intro h
          rcases h with same | mem
          · exact reserved same.symm
          · exact slot mem
        · intro h
          obtain ⟨slot, ⟨first, distinct⟩, _, unseen⟩ := h
          refine ⟨fun mem => slot (.inr mem), distinct, fun other mem seen => ?_⟩
          rcases List.mem_cons.mp seen with rfl | seen
          · exact first mem
          · exact unseen other mem seen

theorem checkVariables_eq_ok {names : List String} :
    checkVariables names = .ok () ↔ Wat.resultSlot ∉ names := by
  unfold checkVariables
  split
  · rename_i mem
    simp [mem]
  · rename_i mem
    simp [mem]

/-- A function is lowered when its parameters are distinct, no slot of it is the result slot, and its
    body is lowered. -/
theorem lowerFunction_eq_ok {signatures : List (String × Nat)} {function : FunctionDeclaration}
    {lowered : Wat.Function} :
    lowerFunction signatures function = .ok lowered ↔
      Wat.resultSlot ∉ function.params ∧ function.params.Nodup ∧
      Wat.resultSlot ∉ varNamesOf function.body ∧
      ∃ code, lowerStatements (function.scope signatures) true function.body = .ok code ∧
        lowered = ⟨function.name, function.params, function.locals, closeBody code⟩ := by
  simp only [lowerFunction, except_bind_eq_ok, except_pure_eq_ok]
  constructor
  · intro h
    obtain ⟨_, params, _, vars, code, body, rfl⟩ := h
    obtain ⟨slot, distinct, _⟩ := checkParams_eq_ok.mp params
    have notVar := checkVariables_eq_ok.mp vars
    rw [mem_firstOccurrences] at notVar
    exact ⟨slot, distinct, notVar, code, body, rfl⟩
  · intro h
    obtain ⟨slot, distinct, notVar, code, body, rfl⟩ := h
    refine ⟨(), checkParams_eq_ok.mpr ⟨slot, distinct, fun _ _ => List.not_mem_nil⟩, (),
      checkVariables_eq_ok.mpr ?_, code, body, rfl⟩
    rw [mem_firstOccurrences]
    exact notVar

/-! ## 5. Signatures -/

/-- The name of a function and the number of its parameters. -/
def FunctionDeclaration.signature (function : FunctionDeclaration) : String × Nat :=
  (function.name, function.params.length)

theorem signatures_eq_ok : ∀ {body : List Statement} {known : List String}
    {found : List (String × Nat)},
    signatures known body = .ok found ↔
      found = (body.filterMap Statement.declared?).map FunctionDeclaration.signature ∧
      ((body.filterMap Statement.declared?).map FunctionDeclaration.name).Nodup ∧
      ∀ function ∈ body.filterMap Statement.declared?,
        function.name ∉ reservedFunctions ∧ function.name ∉ known
  | [], known, found => by
    simp only [signatures, Except.ok.injEq, List.filterMap_nil, List.map_nil, List.nodup_nil,
      List.not_mem_nil, false_implies, implies_true, and_true]
    exact eq_comm
  | statement :: rest, known, found => by
    rw [signatures]
    split
    · rename_i other
      rw [List.filterMap_cons_none other]
      exact signatures_eq_ok
    · rename_i function declared
      rw [List.filterMap_cons_some declared, List.map_cons, List.map_cons, List.nodup_cons,
        List.forall_mem_cons]
      split
      · rename_i reserved
        simp [reserved]
      · rename_i free
        split
        · rename_i repeated
          simp [repeated]
        · rename_i fresh
          simp only [except_bind_eq_ok, except_pure_eq_ok, signatures_eq_ok]
          constructor
          · intro h
            obtain ⟨_, ⟨rfl, distinct, others⟩, rfl⟩ := h
            refine ⟨rfl, ⟨?_, distinct⟩, ⟨free, fresh⟩, fun other mem => ⟨(others other mem).1,
              fun known => (others other mem).2 (List.mem_cons_of_mem _ known)⟩⟩
            intro mem
            obtain ⟨other, mem, same⟩ := List.mem_map.mp mem
            exact (others other mem).2 (same ▸ List.mem_cons_self)
          · intro h
            obtain ⟨rfl, ⟨first, distinct⟩, _, others⟩ := h
            refine ⟨_, ⟨rfl, distinct, fun other mem => ⟨(others other mem).1, fun known => ?_⟩⟩, rfl⟩
            rcases List.mem_cons.mp known with same | known
            · exact first (same ▸ List.mem_map_of_mem mem)
            · exact (others other mem).2 known

/-! ## 6. Programs -/

/-- The export that a specifier makes. -/
def ExportSpecifier.toExport (specifier : ExportSpecifier) : Wat.Export :=
  ⟨specifier.exportedName, specifier.localName⟩

/-- The exports that a statement makes. -/
def Statement.exports : Statement → List Wat.Export
  | .exportFunction name _ _ => [⟨name, name⟩]
  | .exportSpecifiers specifiers => specifiers.map ExportSpecifier.toExport
  | _ => []

/-- The exports of a program, in order. -/
def Program.exports (program : Program) : List Wat.Export := program.body.flatMap Statement.exports

/-- Exports under new names, of functions that are there. -/
structure Exportable (signatures : List (String × Nat)) (taken : List String)
    (exports : List Wat.Export) : Prop where
  /-- No name is exported twice. -/
  distinct : (exports.map Wat.Export.name).Nodup
  /-- No name was exported before. -/
  fresh : ∀ item ∈ exports, item.name ∉ taken
  /-- The functions are there. -/
  known : ∀ item ∈ exports, (signatures.lookup item.function).isSome = true

theorem Exportable.nil {signatures : List (String × Nat)} {taken : List String} :
    Exportable signatures taken [] :=
  ⟨List.nodup_nil, nofun, nofun⟩

/-- Two lists of exports are one, when the names of the first are taken for the second. -/
theorem Exportable.append {signatures : List (String × Nat)} {taken : List String}
    {first second : List Wat.Export} (h : Exportable signatures taken first)
    (h' : Exportable signatures (first.map Wat.Export.name ++ taken) second) :
    Exportable signatures taken (first ++ second) where
  distinct := by
    rw [List.map_append, List.nodup_append]
    refine ⟨h.distinct, h'.distinct, ?_⟩
    intro name inFirst other inSecond same
    obtain ⟨item, mem, rfl⟩ := List.mem_map.mp inSecond
    exact h'.fresh item mem (List.mem_append_left _ (same ▸ inFirst))
  fresh item mem := by
    rcases List.mem_append.mp mem with mem | mem
    · exact h.fresh item mem
    · exact fun inTaken => h'.fresh item mem (List.mem_append_right _ inTaken)
  known item mem := by
    rcases List.mem_append.mp mem with mem | mem
    · exact h.known item mem
    · exact h'.known item mem

theorem lowerExport_eq_ok {taken : List String} {name function : String} {item : Wat.Export} :
    lowerExport taken name function = .ok item ↔ name ∉ taken ∧ item = ⟨name, function⟩ := by
  unfold lowerExport
  split
  · rename_i mem
    simp [mem]
  · rename_i fresh
    simp only [Except.ok.injEq, fresh, not_false_eq_true, true_and]
    exact eq_comm

theorem exportable_of_lowerSpecifiers {signatures : List (String × Nat)} :
    ∀ {specifiers : List ExportSpecifier} {taken : List String} {exports : List Wat.Export},
    lowerSpecifiers signatures taken specifiers = .ok exports →
      exports = specifiers.map ExportSpecifier.toExport ∧ Exportable signatures taken exports
  | [], taken, exports, h => by
    rw [lowerSpecifiers, Except.ok.injEq] at h
    subst h
    exact ⟨rfl, .nil⟩
  | specifier :: rest, taken, exports, h => by
    rw [lowerSpecifiers] at h
    split at h
    · cases h
    · rename_i known
      simp only [except_bind_eq_ok, except_pure_eq_ok, lowerExport_eq_ok] at h
      obtain ⟨_, ⟨fresh, rfl⟩, others, onRest, rfl⟩ := h
      obtain ⟨rfl, exportable⟩ := exportable_of_lowerSpecifiers onRest
      have single : Exportable signatures taken [specifier.toExport] := by
        refine ⟨List.pairwise_singleton _ _, ?_, ?_⟩
        · intro item mem
          rw [List.mem_singleton.mp mem]
          exact fresh
        · intro item mem
          rw [List.mem_singleton.mp mem]
          rw [← Option.not_isNone, Bool.not_eq_true', ← Bool.not_eq_true]
          exact known
      exact ⟨rfl, .append single exportable⟩

/-- What a statement outside of all functions adds: its function, if it declares one, and its
    exports. -/
theorem lowerItem_eq_ok {signatures : List (String × Nat)} {taken : List String}
    {statement : Statement} {items : ModuleItems}
    (h : lowerItem signatures taken statement = .ok items)
    (known : ∀ function, statement.declared? = some function →
      (signatures.lookup function.name).isSome = true) :
    List.Forall₂ (fun function lowered => lowerFunction signatures function = .ok lowered)
        statement.declared?.toList items.functions ∧
      items.exports = statement.exports ∧ Exportable signatures taken items.exports := by
  cases statement with
  | function name params body =>
    simp only [lowerItem, except_bind_eq_ok, except_pure_eq_ok] at h
    obtain ⟨lowered, eq, rfl⟩ := h
    exact ⟨.cons eq .nil, rfl, .nil⟩
  | exportFunction name params body =>
    simp only [lowerItem, except_bind_eq_ok, except_pure_eq_ok, lowerExport_eq_ok] at h
    obtain ⟨_, ⟨fresh, rfl⟩, lowered, eq, rfl⟩ := h
    refine ⟨.cons eq .nil, rfl, List.pairwise_singleton _ _, ?_, ?_⟩
    · intro item mem
      rw [List.mem_singleton.mp mem]
      exact fresh
    · intro item mem
      rw [List.mem_singleton.mp mem]
      exact known _ rfl
  | exportSpecifiers specifiers =>
    simp only [lowerItem, except_bind_eq_ok, except_pure_eq_ok] at h
    obtain ⟨exports, eq, rfl⟩ := h
    obtain ⟨rfl, exportable⟩ := exportable_of_lowerSpecifiers eq
    exact ⟨.nil, rfl, exportable⟩
  | variableDeclaration name init => cases h
  | expression value => cases h
  | ifElse test consequent alternate => cases h
  | returnValue argument => cases h

theorem lowerItems_eq_ok {signatures : List (String × Nat)} :
    ∀ {body : List Statement} {taken : List String} {items : ModuleItems},
    lowerItems signatures taken body = .ok items →
    (∀ function ∈ body.filterMap Statement.declared?,
      (signatures.lookup function.name).isSome = true) →
    List.Forall₂ (fun function lowered => lowerFunction signatures function = .ok lowered)
        (body.filterMap Statement.declared?) items.functions ∧
      items.exports = body.flatMap Statement.exports ∧ Exportable signatures taken items.exports
  | [], taken, items, h, _ => by
    rw [lowerItems, Except.ok.injEq] at h
    subst h
    exact ⟨.nil, rfl, .nil⟩
  | statement :: rest, taken, items, h, known => by
    simp only [lowerItems, except_bind_eq_ok, except_pure_eq_ok] at h
    obtain ⟨first, onFirst, others, onRest, rfl⟩ := h
    have split : (statement :: rest).filterMap Statement.declared? =
        statement.declared?.toList ++ rest.filterMap Statement.declared? := by
      cases declared : statement.declared? with
      | none => rw [List.filterMap_cons_none declared]; rfl
      | some function => rw [List.filterMap_cons_some declared]; rfl
    rw [split] at known ⊢
    obtain ⟨functions, exports, exportable⟩ := lowerItem_eq_ok onFirst fun function declared =>
      known function (List.mem_append_left _ (by rw [declared]; exact List.mem_singleton_self _))
    obtain ⟨functions', exports', exportable'⟩ := lowerItems_eq_ok onRest fun function mem =>
      known function (List.mem_append_right _ mem)
    refine ⟨List.rel_append functions functions', ?_, exportable.append exportable'⟩
    rw [List.flatMap_cons, exports, exports']

/-- **What a lowered module consists of**: one function for each function of the program, in the same
    order, and the exports of the program. -/
theorem lower_eq_ok {width : Wat.FloatWidth} {program : Program} {module : Wat.Module}
    (h : lower width program = .ok module) :
    (program.declarations.map FunctionDeclaration.name).Nodup ∧
    (∀ function ∈ program.declarations, function.name ∉ reservedFunctions) ∧
    List.Forall₂ (fun function lowered => lowerFunction
        (program.declarations.map FunctionDeclaration.signature) function = .ok lowered)
      program.declarations module.functions ∧
    module.exports = program.exports ∧
    Exportable (program.declarations.map FunctionDeclaration.signature) [] module.exports := by
  rw [lower_eq] at h
  simp only [lowerProgram, except_bind_eq_ok, except_pure_eq_ok] at h
  obtain ⟨found, collected, items, lowered, rfl⟩ := h
  obtain ⟨rfl, distinct, free⟩ := signatures_eq_ok.mp collected
  obtain ⟨functions, exports, exportable⟩ := lowerItems_eq_ok lowered fun function mem => by
    rw [← Option.not_isNone, Bool.not_eq_true', ← Bool.not_eq_true, Option.isNone_iff_eq_none,
      List.lookup_eq_none_iff]
    intro absent
    have := absent function.signature (List.mem_map_of_mem mem)
    rw [bne_iff_ne] at this
    exact this rfl
  exact ⟨distinct, fun function mem => (free function mem).1, functions, exports, exportable⟩

/-! ## 7. Functions by their names -/

/-- The signature of a function is found under its name. -/
theorem lookup_signature (functions : List FunctionDeclaration) (name : String) :
    (functions.map FunctionDeclaration.signature).lookup name =
      (functions.find? fun function => function.name = name).map fun function =>
        function.params.length := by
  induction functions with
  | nil => rfl
  | cons first rest ih =>
    rw [List.map_cons, FunctionDeclaration.signature, List.lookup_cons, ih]
    by_cases same : first.name = name
    · simp [same]
    · simp [same, beq_eq_false_iff_ne.mpr (Ne.symm same)]

theorem name_of_lowerFunction {signatures : List (String × Nat)} {function : FunctionDeclaration}
    {lowered : Wat.Function} (h : lowerFunction signatures function = .ok lowered) :
    lowered.name = function.name ∧ lowered.params = function.params := by
  obtain ⟨_, _, _, code, _, rfl⟩ := lowerFunction_eq_ok.mp h
  exact ⟨rfl, rfl⟩

/-- What is found among the functions of a program is found, lowered, among those of the module. -/
theorem find_lowered {signatures : List (String × Nat)} {name : String} :
    ∀ {functions : List FunctionDeclaration} {lowered : List Wat.Function},
    List.Forall₂ (fun function lowered => lowerFunction signatures function = .ok lowered)
      functions lowered →
    ∀ {function : FunctionDeclaration},
    (functions.find? fun function => function.name = name) = some function →
    ∃ found, (lowered.find? fun function => function.name = name) = some found ∧
      lowerFunction signatures function = .ok found
  | _, _, .nil, _, found => by cases found
  | first :: _, result :: _, .cons eq rest, function, found => by
    have named := (name_of_lowerFunction eq).1
    rw [List.find?_cons] at found ⊢
    rw [named]
    by_cases same : first.name = name
    · simp only [same, decide_true, Option.some.injEq] at found ⊢
      subst found
      exact ⟨result, rfl, eq⟩
    · simp only [same, decide_false] at found ⊢
      exact find_lowered rest found

theorem find_of_mem : ∀ {functions : List FunctionDeclaration} {function : FunctionDeclaration},
    (functions.map FunctionDeclaration.name).Nodup → function ∈ functions →
    (functions.find? fun other => other.name = function.name) = some function
  | first :: rest, function, distinct, mem => by
    rw [List.map_cons, List.nodup_cons] at distinct
    rw [List.find?_cons]
    rcases List.mem_cons.mp mem with rfl | mem
    · simp
    · have other : first.name ≠ function.name := by
        intro same
        exact distinct.1 (same ▸ List.mem_map_of_mem mem)
      simp only [other, decide_false]
      exact find_of_mem distinct.2 mem

/-- What a body can call is a function of the program, and is there, lowered, in the module. -/
theorem exists_lowered {width : Wat.FloatWidth} {program : Program} {module : Wat.Module}
    (h : lower width program = .ok module) {name : String} {arity : Nat}
    (known : (program.declarations.map FunctionDeclaration.signature).lookup name = some arity) :
    name ≠ Wat.logFunction ∧ ∃ callee lowered, program.function? name = some callee ∧
      module.function? name = some lowered ∧
      lowerFunction (program.declarations.map FunctionDeclaration.signature) callee = .ok lowered ∧
      lowered.params.length = arity := by
  obtain ⟨_, free, functions, _⟩ := lower_eq_ok h
  rw [lookup_signature, Option.map_eq_some_iff] at known
  obtain ⟨callee, found, rfl⟩ := known
  obtain ⟨lowered, found', eq⟩ := find_lowered functions found
  refine ⟨?_, callee, lowered, found, found', eq, by rw [(name_of_lowerFunction eq).2]⟩
  rintro rfl
  have named := List.find?_some found
  rw [decide_eq_true_eq] at named
  refine free callee (List.mem_of_find?_eq_some found) ?_
  rw [named]
  exact List.mem_cons_self

end NumScript
