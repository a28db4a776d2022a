import NumScript.Proofs.Lowering.Inversion
import NumScript.Proofs.Semantics.Machine

/-!
# What lowered code does

The code of an expression pushes the value of the expression and leaves the rest of the frame alone;
the code of statements does to the locals what the statements do to the slots. Both are stated with
the code that follows, as equations between runs (`run_lowerExpression`, `run_lowerStatements`).

A `return` is the hard part. It stores its value in the result slot. At the tail the code then comes
to its end, and elsewhere it branches to the exit label. Inside the exit block the two cannot be told
apart (`run_exitBlock`), and without a branch the block can be left out (`run_block_of_no_branch`), so
the body of a function always ends with the result on the stack (`run_closeBody`).

What calls mean is given here; `CallsAgree` says that they mean the same on both sides.
-/

namespace NumScript

open Wat (Instruction Frame Exit Value runBody runBody_cons runBody_append runBody_ifElse)

section Lowered

variable {α : Type} {A : Arithmetic α} {call : String → List α → Effect α}
  {function? : String → Option Wat.Function} {invoke : Wat.Function → List α → Effect α}
  {scope : Scope}

/-- The functions that a body may call are in the module, and mean the same there. -/
def CallsAgree (scope : Scope) (call : String → List α → Effect α)
    (function? : String → Option Wat.Function) (invoke : Wat.Function → List α → Effect α) : Prop :=
  ∀ name arity, scope.signatures.lookup name = some arity →
    name ≠ Wat.logFunction ∧ ∃ callee, function? name = some callee ∧
      callee.params.length = arity ∧ ∀ args, invoke callee args = call name args

/-! ## 1. Operations -/

theorem operate_arithmetic {op : BinaryOperator} (arithmetic : op.isRelational = false) (x y : α)
    (stack : List (Value α)) :
    Wat.operate A (floatOperation op) (.float y :: .float x :: stack) =
      (A.combine op x y).map fun z => .float z :: stack := by
  cases op with
  | add | subtract | multiply | divide => rfl
  | less | greater | lessEqual | greaterEqual | equal | notEqual => cases arithmetic

theorem operate_comparison {op : BinaryOperator} (relational : op.isRelational = true) (x y : α)
    (stack : List (Value α)) :
    Wat.operate A (floatOperation op) (.float y :: .float x :: stack) =
      (A.compare op x y).map fun holds => Wat.truth holds :: stack := by
  cases op with
  | add | subtract | multiply | divide => cases relational
  | less | greater | lessEqual | greaterEqual | equal | notEqual => rfl

theorem runBody_float (operation : Wat.FloatOperation) (rest : List Instruction)
    (stack : List (Value α)) (locals : Slots α) :
    runBody A function? invoke (.float operation :: rest) ⟨stack, locals⟩ =
      (.ofOption (Wat.operate A operation stack) >>= fun stack =>
        runBody A function? invoke rest ⟨stack, locals⟩) := by
  rw [runBody_cons, Wat.runInstruction, bind_assoc]
  rfl

/-- The code of a sign puts the sign before the number on the stack. -/
theorem run_unaryInstructions (op : UnaryOperator) (x : α) (rest : List Instruction)
    (stack : List (Value α)) (locals : Slots α) :
    runBody A function? invoke (unaryInstructions op ++ rest) ⟨.float x :: stack, locals⟩ =
      runBody A function? invoke rest ⟨.float (A.signed op x) :: stack, locals⟩ := by
  cases op with
  | plus => rfl
  | negate =>
    show runBody A function? invoke (.float .neg :: rest) _ = _
    rw [runBody_float]
    rfl

/-- A call takes its arguments from the stack and leaves its result there. -/
theorem run_call (calls : CallsAgree scope call function? invoke) {callee : String}
    {values : List α} (arity : scope.arity? callee = some values.length) (rest : List Instruction)
    (stack : List (Value α)) (locals : Slots α) :
    runBody A function? invoke (callInstruction callee :: rest)
        ⟨values.reverse.map .float ++ stack, locals⟩ =
      ((if callee = sqrtFunction then .ofOption (A.root values) else call callee values) >>= fun x =>
        runBody A function? invoke rest ⟨.float x :: stack, locals⟩) := by
  unfold Scope.arity? at arity
  unfold callInstruction
  by_cases root : callee = sqrtFunction
  · rw [if_pos root, Option.some.injEq] at arity
    obtain ⟨x, rfl⟩ := List.length_eq_one_iff.mp arity.symm
    rw [if_pos root, if_pos root, runBody_float]
    rfl
  · rw [if_neg root] at arity
    obtain ⟨notLog, function, found, params, same⟩ := calls callee values.length arity
    rw [if_neg root, if_neg root, runBody_cons, Wat.runInstruction, if_neg notLog]
    have taken := Wat.popFloats_reverse values.reverse stack
    rw [List.length_reverse, List.reverse_reverse] at taken
    simp only [found, params, taken, same, Effect.ofOption_some, pure_bind, bind_assoc]
    rfl

/-! ## 2. Expressions -/

theorem evaluateAll_ensures (slots : Slots α) (arguments : List Expression) :
    (evaluateAll A call slots arguments).Ensures
      fun values => values.length = arguments.length := by
  induction arguments with
  | nil =>
    rw [evaluateAll]
    exact Effect.ensures_pure rfl
  | cons argument rest ih =>
    rw [evaluateAll]
    refine Effect.ensures_bind fun value => ih.bind fun values same => ?_
    exact Effect.ensures_pure (by rw [List.length_cons, List.length_cons, same])

mutual
/-- **The code of an expression pushes the value of the expression.** -/
theorem run_lowerExpression (calls : CallsAgree scope call function? invoke) {slots locals : Slots α}
    (agree : ∀ name ∈ scope.slots, locals name = slots name) :
    ∀ (value : Expression) {code : List Instruction}, lowerExpression scope value = .ok code →
    ∀ (rest : List Instruction) (stack : List (Value α)),
      runBody A function? invoke (code ++ rest) ⟨stack, locals⟩ =
        (evaluate A call slots value >>= fun x =>
          runBody A function? invoke rest ⟨.float x :: stack, locals⟩)
  | .number value, code, h, rest, stack => by
    rw [lowerExpression_number] at h
    subst h
    rw [evaluate, pure_bind, List.singleton_append, runBody_cons, Wat.runInstruction, pure_bind]
    rfl
  | .var name, code, h, rest, stack => by
    obtain ⟨mem, rfl⟩ := lowerExpression_var.mp h
    rw [evaluate, List.singleton_append, runBody_cons, Wat.runInstruction, bind_assoc,
      ← agree name mem]
    rfl
  | .binary op left right, code, h, rest, stack => by
    obtain ⟨arithmetic, first, second, onLeft, onRight, rfl⟩ := lowerExpression_binary.mp h
    rw [evaluate, List.append_assoc, List.append_assoc,
      run_lowerExpression calls agree left onLeft, bind_assoc]
    refine bind_congr fun x => ?_
    rw [run_lowerExpression calls agree right onRight, bind_assoc]
    refine bind_congr fun y => ?_
    rw [List.singleton_append, runBody_float, operate_arithmetic arithmetic,
      Effect.ofOption_map_bind]
  | .unary op operand, code, h, rest, stack => by
    obtain ⟨inner, lowered, rfl⟩ := lowerExpression_unary.mp h
    rw [evaluate, List.append_assoc, run_lowerExpression calls agree operand lowered, bind_assoc]
    refine bind_congr fun x => ?_
    rw [run_unaryInstructions, pure_bind]
  | .call callee arguments, code, h, rest, stack => by
    obtain ⟨_, arity, inner, lowered, rfl⟩ := lowerExpression_call.mp h
    rw [evaluate, List.append_assoc, run_lowerArguments calls agree arguments lowered, bind_assoc]
    -- only for as many values as there are arguments does the call find them all
    refine (evaluateAll_ensures slots arguments).bind_congr fun values same => ?_
    rw [← same] at arity
    exact run_call calls arity rest stack locals
  | .assign target value, code, h, rest, stack => absurd h lowerExpression_assign

/-- The code of arguments pushes their values, the last one on top. -/
theorem run_lowerArguments (calls : CallsAgree scope call function? invoke) {slots locals : Slots α}
    (agree : ∀ name ∈ scope.slots, locals name = slots name) :
    ∀ (arguments : List Expression) {code : List Instruction},
    lowerArguments scope arguments = .ok code →
    ∀ (rest : List Instruction) (stack : List (Value α)),
      runBody A function? invoke (code ++ rest) ⟨stack, locals⟩ =
        (evaluateAll A call slots arguments >>= fun values =>
          runBody A function? invoke rest ⟨values.reverse.map .float ++ stack, locals⟩)
  | [], code, h, rest, stack => by
    rw [lowerArguments_nil] at h
    subst h
    rw [evaluateAll, pure_bind]
    rfl
  | argument :: others, code, h, rest, stack => by
    obtain ⟨first, second, onFirst, onRest, rfl⟩ := lowerArguments_cons.mp h
    rw [evaluateAll, List.append_assoc, run_lowerExpression calls agree argument onFirst, bind_assoc]
    refine bind_congr fun x => ?_
    rw [run_lowerArguments calls agree others onRest, bind_assoc]
    refine bind_congr fun values => ?_
    rw [pure_bind, List.reverse_cons, List.map_append, List.append_assoc]
    rfl
end

/-- The code of a test pushes whether the test holds. -/
theorem run_lowerCondition (calls : CallsAgree scope call function? invoke) {slots locals : Slots α}
    (agree : ∀ name ∈ scope.slots, locals name = slots name) {test : Expression}
    {code : List Instruction} (h : lowerCondition scope test = .ok code)
    (rest : List Instruction) (stack : List (Value α)) :
    runBody A function? invoke (code ++ rest) ⟨stack, locals⟩ =
      (evaluateTest A call slots test >>= fun holds =>
        runBody A function? invoke rest ⟨Wat.truth holds :: stack, locals⟩) := by
  obtain ⟨op, left, right, first, second, rfl, relational, onLeft, onRight, rfl⟩ |
    ⟨inner, lowered, rfl⟩ := lowerCondition_eq_ok.mp h
  · rw [evaluateTest, if_pos relational, List.append_assoc, List.append_assoc,
      run_lowerExpression calls agree left onLeft, bind_assoc]
    refine bind_congr fun x => ?_
    rw [run_lowerExpression calls agree right onRight, bind_assoc]
    refine bind_congr fun y => ?_
    rw [List.singleton_append, runBody_float, operate_comparison relational,
      Effect.ofOption_map_bind]
  · have nonzero : evaluateTest A call slots test = (evaluate A call slots test >>= fun x =>
        pure (A.ne x A.zero)) := by
      unfold evaluateTest
      split
      · rw [(lowerExpression_binary.mp lowered).1, if_neg Bool.false_ne_true]
      · rfl
    rw [nonzero, List.append_assoc, run_lowerExpression calls agree test lowered, bind_assoc]
    refine bind_congr fun x => ?_
    rw [pure_bind]
    show runBody A function? invoke (.const Binary64.zero :: .float .ne :: rest) _ = _
    rw [runBody_cons, Wat.runInstruction, pure_bind]
    show runBody A function? invoke (.float .ne :: rest) _ = _
    rw [runBody_float]
    rfl

/-! ## 3. Slots -/

/-- There is a slot for each of these names. -/
def Slots.Covers (slots : Slots α) (names : List String) : Prop :=
  ∀ name ∈ names, (slots name).isSome = true

theorem Slots.Covers.insert {slots : Slots α} {names : List String} (h : slots.Covers names)
    (name : String) (value : α) : (slots.insert name value).Covers names :=
  fun other mem => isSome_insert name value (h other mem)

theorem Slots.Covers.ensures_assign {slots : Slots α} {names : List String} (h : slots.Covers names)
    (name : String) (value : α) :
    (Effect.ofOption (slots.assign name value)).Ensures (Slots.Covers · names) := by
  refine Effect.ensures_ofOption fun after eq => ?_
  unfold Slots.assign at eq
  split at eq
  · cases eq
    exact h.insert name value
  · cases eq

theorem executeEffect_ensures {slots : Slots α} {names : List String} (h : slots.Covers names)
    (value : Expression) : (executeEffect A call slots value).Ensures (Slots.Covers · names) := by
  unfold executeEffect
  split
  · exact Effect.ensures_bind fun x => h.ensures_assign _ x
  · split
    · split
      · exact Effect.ensures_bind fun _ => Effect.ensures_pure h
      · exact Effect.ensures_fail
    · exact Effect.ensures_bind fun _ => Effect.ensures_pure h
  · exact Effect.ensures_bind fun _ => Effect.ensures_pure h

mutual
/-- Statements take no slot away. -/
theorem executeStatement_ensures {names : List String} : ∀ (statement : Statement) {slots : Slots α},
    slots.Covers names →
    (executeStatement A call slots statement).Ensures fun outcome => outcome.slots.Covers names
  | .returnValue argument, slots, h => by
    rw [executeStatement]
    exact Effect.ensures_bind fun _ => Effect.ensures_pure h
  | .ifElse test consequent alternate, slots, h => by
    rw [executeStatement]
    refine Effect.ensures_bind fun holds => ?_
    cases holds with
    | true => exact execute_ensures consequent h
    | false => exact execute_ensures alternate h
  | .variableDeclaration name none, slots, h => by
    rw [executeStatement]
    exact Effect.ensures_pure h
  | .variableDeclaration name (some init), slots, h => by
    rw [executeStatement]
    exact Effect.ensures_bind fun x => (h.ensures_assign name x).bind fun _ covers =>
      Effect.ensures_pure covers
  | .expression value, slots, h => by
    rw [executeStatement]
    exact (executeEffect_ensures h value).bind fun _ covers => Effect.ensures_pure covers
  | .function _ _ _, _, _ => Effect.ensures_fail
  | .exportFunction _ _ _, _, _ => Effect.ensures_fail
  | .exportSpecifiers _, _, _ => Effect.ensures_fail

theorem execute_ensures {names : List String} : ∀ (body : List Statement) {slots : Slots α},
    slots.Covers names →
    (execute A call slots body).Ensures fun outcome => outcome.slots.Covers names
  | [], slots, h => by
    rw [execute]
    exact Effect.ensures_pure h
  | statement :: rest, slots, h => by
    rw [execute]
    refine (executeStatement_ensures statement h).bind fun outcome covers => ?_
    split
    · exact Effect.ensures_pure covers
    · exact execute_ensures rest covers
end

theorem runBody_localSet {name : String} {locals locals' : Slots α} {x : α}
    (assigned : locals.assign name x = some locals') (rest : List Instruction)
    (stack : List (Value α)) :
    runBody A function? invoke (.localSet name :: rest) ⟨.float x :: stack, locals⟩ =
      runBody A function? invoke rest ⟨stack, locals'⟩ := by
  rw [runBody_cons, Wat.runInstruction]
  simp only [Wat.popFloat, assigned, Effect.ofOption_some, pure_bind]
  rfl

/-- What a variable is set to does not touch the result slot. -/
theorem assign_slot (apart : Wat.resultSlot ∉ scope.slots) {slots : Slots α}
    (covers : slots.Covers scope.slots) {name : String} (mem : name ∈ scope.slots) (result x : α) :
    (slots.insert Wat.resultSlot result).assign name x =
      some ((slots.insert name x).insert Wat.resultSlot result) := by
  have other : name ≠ Wat.resultSlot := fun same => apart (same ▸ mem)
  rw [Slots.assign_of_isSome _ (Slots.isSome_insert _ _ (covers name mem)),
    Slots.insert_comm _ _ _ other]

theorem assign_resultSlot (slots : Slots α) (result x : α) :
    (slots.insert Wat.resultSlot result).assign Wat.resultSlot x =
      some (slots.insert Wat.resultSlot x) := by
  rw [Slots.assign_of_isSome, Slots.insert_insert]
  rw [Slots.insert_same, Option.isSome_some]

theorem agree_resultSlot (apart : Wat.resultSlot ∉ scope.slots) (slots : Slots α) (result : α) :
    ∀ name ∈ scope.slots, slots.insert Wat.resultSlot result name = slots name :=
  fun _ mem => Slots.insert_other _ _ fun same => apart (same ▸ mem)

/-! ## 4. Statements away from the tail -/

/-- The code of a fault appends the message to the log. -/
theorem run_faultInstructions (rest : List Instruction) (stack : List (Value α))
    (locals : Slots α) :
    runBody A function? invoke (faultInstructions ++ rest) ⟨stack, locals⟩ =
      (Effect.say "ERROR" >>= fun _ => runBody A function? invoke rest ⟨stack, locals⟩) := by
  have message : Wat.messageAt 0 (Int32.ofNat Wat.faultMessage.utf8ByteSize) = some "ERROR" := by
    decide
  show runBody A function? invoke (.i32Const 0 :: .i32Const _ :: .call Wat.logFunction :: rest) _ = _
  rw [runBody_cons, Wat.runInstruction, pure_bind]
  show runBody A function? invoke (.i32Const _ :: .call Wat.logFunction :: rest) _ = _
  rw [runBody_cons, Wat.runInstruction, pure_bind]
  show runBody A function? invoke (.call Wat.logFunction :: rest) _ = _
  rw [runBody_cons, Wat.runInstruction, if_pos rfl]
  simp only [Wat.popInt, message, Effect.ofOption_some, pure_bind, bind_assoc]
  rfl

/-- The code of an expression that is a statement does to the locals what the statement does to the
    slots. -/
theorem run_lowerEffect (calls : CallsAgree scope call function? invoke)
    (apart : Wat.resultSlot ∉ scope.slots) {value : Expression} {code : List Instruction}
    (h : lowerEffect scope value = .ok code) {slots : Slots α} (covers : slots.Covers scope.slots)
    (result : α) (rest : List Instruction) (stack : List (Value α)) :
    runBody A function? invoke (code ++ rest) ⟨stack, slots.insert Wat.resultSlot result⟩ =
      (executeEffect A call slots value >>= fun after =>
        runBody A function? invoke rest ⟨stack, after.insert Wat.resultSlot result⟩) := by
  have agree := agree_resultSlot apart slots result
  obtain ⟨target, source, inner, rfl, lowered, mem, rfl⟩ | ⟨rfl, rfl⟩ | ⟨inner, lowered, rfl⟩ :=
    lowerEffect_eq_ok.mp h
  · rw [executeEffect, List.append_assoc, run_lowerExpression calls agree source lowered, bind_assoc]
    refine bind_congr fun x => ?_
    rw [List.singleton_append, runBody_localSet (assign_slot apart covers mem result x),
      Slots.assign_of_isSome x (covers target mem), Effect.ofOption_some, pure_bind]
  · rw [run_faultInstructions, executeEffect, if_pos rfl, List.isEmpty_nil, if_pos rfl, bind_assoc]
    congr 1
  · have dropped : executeEffect A call slots value = (evaluate A call slots value >>= fun _ =>
        pure slots) := by
      unfold executeEffect
      split
      · exact absurd lowered lowerExpression_assign
      · rw [if_neg (lowerExpression_call.mp lowered).1]
      · rfl
    rw [dropped, List.append_assoc, run_lowerExpression calls agree value lowered, bind_assoc]
    refine bind_congr fun x => ?_
    rw [pure_bind, List.singleton_append, runBody_cons, Wat.runInstruction, pure_bind]
    rfl

/-- How code away from the tail goes on after its statements: with the code that follows, or out of
    the body if the statements returned. -/
def goOn (A : Arithmetic α) (function? : String → Option Wat.Function)
    (invoke : Wat.Function → List α → Effect α) (rest : List Instruction) (stack : List (Value α))
    (result : α) (outcome : Outcome α) : Effect (Exit α) :=
  match outcome.returned with
  | none => runBody A function? invoke rest ⟨stack, outcome.slots.insert Wat.resultSlot result⟩
  | some value =>
    pure (.branch Wat.exitLabel ⟨stack, outcome.slots.insert Wat.resultSlot value⟩)

mutual
/-- The code of a statement away from the tail. -/
theorem run_lowerStatement (calls : CallsAgree scope call function? invoke)
    (apart : Wat.resultSlot ∉ scope.slots) : ∀ (statement : Statement) {code : List Instruction},
    lowerStatement scope false statement = .ok code →
    (∀ name ∈ statement.varNames, name ∈ scope.slots) →
    ∀ {slots : Slots α}, slots.Covers scope.slots →
    ∀ (result : α) (rest : List Instruction) (stack : List (Value α)),
      runBody A function? invoke (code ++ rest) ⟨stack, slots.insert Wat.resultSlot result⟩ =
        (executeStatement A call slots statement >>=
          goOn A function? invoke rest stack result)
  | .returnValue argument, code, h, _, slots, covers, result, rest, stack => by
    obtain ⟨inner, lowered, rfl⟩ := lowerStatement_return.mp h
    rw [executeStatement, List.append_assoc,
      run_lowerExpression calls (agree_resultSlot apart slots result) argument lowered, bind_assoc]
    refine bind_congr fun x => ?_
    rw [pure_bind, List.cons_append, runBody_localSet (assign_resultSlot slots result x)]
    show runBody A function? invoke (.br Wat.exitLabel :: rest) _ = _
    rw [runBody_cons, Wat.runInstruction, pure_bind]
    rfl
  | .ifElse test consequent alternate, code, h, declared, slots, covers, result, rest, stack => by
    obtain ⟨inner, first, second, onTest, onFirst, onSecond, rfl⟩ := lowerStatement_ifElse.mp h
    rw [Statement.varNames] at declared
    rw [executeStatement, List.append_assoc,
      run_lowerCondition calls (agree_resultSlot apart slots result) onTest, bind_assoc]
    refine bind_congr fun holds => ?_
    rw [List.singleton_append, runBody_ifElse]
    cases holds with
    | true =>
      exact run_lowerStatements calls apart consequent onFirst
        (fun name mem => declared name (List.mem_append_left _ mem)) covers result rest stack
    | false =>
      exact run_lowerStatements calls apart alternate onSecond
        (fun name mem => declared name (List.mem_append_right _ mem)) covers result rest stack
  | .variableDeclaration name none, code, h, _, slots, covers, result, rest, stack => by
    rw [lowerStatement_declaration] at h
    subst h
    rw [executeStatement, pure_bind]
    rfl
  | .variableDeclaration name (some init), code, h, declared, slots, covers, result, rest, stack => by
    obtain ⟨inner, lowered, rfl⟩ := lowerStatement_initialized.mp h
    have mem : name ∈ scope.slots :=
      declared name (by rw [Statement.varNames]; exact List.mem_singleton_self name)
    rw [executeStatement, List.append_assoc,
      run_lowerExpression calls (agree_resultSlot apart slots result) init lowered, bind_assoc]
    refine bind_congr fun x => ?_
    rw [List.singleton_append, runBody_localSet (assign_slot apart covers mem result x),
      Slots.assign_of_isSome x (covers name mem), Effect.ofOption_some, pure_bind, pure_bind]
    rfl
  | .expression value, code, h, _, slots, covers, result, rest, stack => by
    rw [lowerStatement_expression] at h
    rw [executeStatement, run_lowerEffect calls apart h covers, bind_assoc]
    refine bind_congr fun after => ?_
    rw [pure_bind]
    rfl
  | .function _ _ _, code, h, _, _, _, _, _, _ => absurd h lowerStatement_function
  | .exportFunction _ _ _, code, h, _, _, _, _, _, _ => absurd h lowerStatement_exportFunction
  | .exportSpecifiers _, code, h, _, _, _, _, _, _ => absurd h lowerStatement_exportSpecifiers

/-- **The code of statements away from the tail**: it does what the statements do, and branches to
    the exit label where they return. -/
theorem run_lowerStatements (calls : CallsAgree scope call function? invoke)
    (apart : Wat.resultSlot ∉ scope.slots) : ∀ (body : List Statement) {code : List Instruction},
    lowerStatements scope false body = .ok code →
    (∀ name ∈ varNamesOf body, name ∈ scope.slots) →
    ∀ {slots : Slots α}, slots.Covers scope.slots →
    ∀ (result : α) (rest : List Instruction) (stack : List (Value α)),
      runBody A function? invoke (code ++ rest) ⟨stack, slots.insert Wat.resultSlot result⟩ =
        (execute A call slots body >>= goOn A function? invoke rest stack result)
  | [], code, h, _, slots, covers, result, rest, stack => by
    rw [lowerStatements_nil] at h
    subst h
    rw [execute, pure_bind]
    rfl
  | statement :: others, code, h, declared, slots, covers, result, rest, stack => by
    rw [varNamesOf] at declared
    have here : ∀ name ∈ statement.varNames, name ∈ scope.slots :=
      fun name mem => declared name (List.mem_append_left _ mem)
    have later : ∀ name ∈ varNamesOf others, name ∈ scope.slots :=
      fun name mem => declared name (List.mem_append_right _ mem)
    rw [execute, bind_assoc]
    cases ends : statement.isReturn with
    | true =>
      obtain ⟨argument, rfl⟩ := exists_of_isReturn ends
      rw [run_lowerStatement calls apart _ (lowerStatements_return.mp h) here covers,
        executeStatement, bind_assoc, bind_assoc]
      refine bind_congr fun x => ?_
      rw [pure_bind, pure_bind, Option.isSome_some, if_pos rfl, pure_bind]
    | false =>
      obtain ⟨first, second, onFirst, onRest, rfl⟩ := (lowerStatements_cons ends).mp h
      rw [Bool.false_and] at onFirst
      rw [List.append_assoc, run_lowerStatement calls apart statement onFirst here covers]
      refine (executeStatement_ensures statement covers).bind_congr fun outcome covers => ?_
      obtain ⟨slots, _ | value⟩ := outcome
      · rw [Option.isSome_none, if_neg Bool.false_ne_true]
        exact run_lowerStatements calls apart others onRest later covers result rest stack
      · rw [Option.isSome_some, if_pos rfl, pure_bind]
        rfl
end

/-! ## 5. The exit block -/

/-- At the tail only the last statement of a list is lowered differently, and only if it is a
    condition. -/
theorem lowerStatement_tail {statement : Statement} {others : List Statement}
    {code : List Instruction} (goesOn : statement.isReturn = false)
    (h : lowerStatement scope (true && others.isEmpty) statement = .ok code) :
    lowerStatement scope false statement = .ok code ∨
      others = [] ∧ ∃ test consequent alternate, statement = .ifElse test consequent alternate := by
  cases others with
  | cons next rest => exact .inl h
  | nil =>
    cases statement with
    | returnValue argument => cases goesOn
    | ifElse test consequent alternate => exact .inr ⟨rfl, test, consequent, alternate, rfl⟩
    | variableDeclaration name init =>
      refine .inl ?_
      cases init <;> rw [lowerStatement] at h ⊢ <;> exact h
    | _ =>
      refine .inl ?_
      rw [lowerStatement] at h ⊢
      exact h

/-- **The code of statements in the exit block**: however they return, the block is left at its end,
    and the result slot holds what they returned. -/
theorem run_exitBlock (calls : CallsAgree scope call function? invoke)
    (apart : Wat.resultSlot ∉ scope.slots) : ∀ (body : List Statement) {code : List Instruction},
    lowerStatements scope true body = .ok code →
    (∀ name ∈ varNamesOf body, name ∈ scope.slots) →
    ∀ {slots : Slots α}, slots.Covers scope.slots →
    ∀ (result : α) (stack : List (Value α)),
      Wat.runInstruction A function? invoke (.block Wat.exitLabel code)
          ⟨stack, slots.insert Wat.resultSlot result⟩ =
        (execute A call slots body >>= fun outcome => pure (.next ⟨stack,
          outcome.slots.insert Wat.resultSlot (outcome.returned.getD result)⟩))
  | [], code, h, _, slots, covers, result, stack => by
    rw [lowerStatements_nil] at h
    subst h
    rw [execute, Wat.runInstruction, runBody, pure_bind, pure_bind]
    rfl
  | statement :: others, code, h, declared, slots, covers, result, stack => by
    rw [varNamesOf] at declared
    have here : ∀ name ∈ statement.varNames, name ∈ scope.slots :=
      fun name mem => declared name (List.mem_append_left _ mem)
    have later : ∀ name ∈ varNamesOf others, name ∈ scope.slots :=
      fun name mem => declared name (List.mem_append_right _ mem)
    rw [execute, Wat.runInstruction, bind_assoc]
    cases ends : statement.isReturn with
    | true =>
      obtain ⟨argument, rfl⟩ := exists_of_isReturn ends
      obtain ⟨inner, lowered, rfl⟩ := lowerStatement_return.mp (lowerStatements_return.mp h)
      rw [if_pos rfl, executeStatement,
        run_lowerExpression calls (agree_resultSlot apart slots result) argument lowered,
        bind_assoc, bind_assoc]
      refine bind_congr fun x => ?_
      rw [runBody_localSet (assign_resultSlot slots result x), runBody, pure_bind, pure_bind,
        Option.isSome_some, if_pos rfl, pure_bind]
      rfl
    | false =>
      obtain ⟨first, second, onFirst, onRest, rfl⟩ := (lowerStatements_cons ends).mp h
      obtain onFirst' | ⟨rfl, test, consequent, alternate, rfl⟩ := lowerStatement_tail ends onFirst
      · rw [run_lowerStatement calls apart statement onFirst' here covers, bind_assoc]
        refine (executeStatement_ensures statement covers).bind_congr fun outcome covers => ?_
        obtain ⟨slots, _ | value⟩ := outcome
        · have rest := run_exitBlock calls apart others onRest later covers result stack
          rw [Wat.runInstruction] at rest
          rw [Option.isSome_none, if_neg Bool.false_ne_true]
          exact rest
        · rw [Option.isSome_some, if_pos rfl, pure_bind, goOn, pure_bind, Exit.leave, if_pos rfl]
          rfl
      · -- a condition that nothing follows: both of its blocks stand at the tail again
        obtain ⟨inner, yes, no, onTest, onYes, onNo, rfl⟩ := lowerStatement_ifElse.mp onFirst
        rw [lowerStatements_nil] at onRest
        subst onRest
        rw [Statement.varNames] at here
        have last (outcome : Outcome α) : (if outcome.returned.isSome then pure outcome
            else execute A call outcome.slots []) = (pure outcome : Effect (Outcome α)) := by
          obtain ⟨slots, _ | value⟩ := outcome
          · rw [execute]; rfl
          · rfl
        simp only [last, pure_bind]
        rw [executeStatement, List.append_assoc,
          run_lowerCondition calls (agree_resultSlot apart slots result) onTest, bind_assoc,
          bind_assoc]
        refine bind_congr fun holds => ?_
        rw [List.singleton_append, runBody_ifElse, List.append_nil]
        cases holds with
        | true =>
          exact run_exitBlock calls apart consequent onYes
            (fun name mem => here name (List.mem_append_left _ mem)) covers result stack
        | false =>
          exact run_exitBlock calls apart alternate onNo
            (fun name mem => here name (List.mem_append_right _ mem)) covers result stack
termination_by body => sizeOf body

mutual
/-- What holds no branch never leaves its body by one. -/
theorem runInstruction_ensures_next : ∀ (instruction : Instruction) (frame : Frame α),
    instruction.branches = false →
    (Wat.runInstruction A function? invoke instruction frame).Ensures fun exit =>
      ∃ frame, exit = .next frame
  | .const value, frame, _ => by
    rw [Wat.runInstruction]
    exact Effect.ensures_pure ⟨_, rfl⟩
  | .i32Const value, frame, _ => by
    rw [Wat.runInstruction]
    exact Effect.ensures_pure ⟨_, rfl⟩
  | .localGet name, frame, _ => by
    rw [Wat.runInstruction]
    exact Effect.ensures_bind fun _ => Effect.ensures_pure ⟨_, rfl⟩
  | .localSet name, frame, _ => by
    rw [Wat.runInstruction]
    exact Effect.ensures_bind fun _ => Effect.ensures_bind fun _ => Effect.ensures_pure ⟨_, rfl⟩
  | .float operation, frame, _ => by
    rw [Wat.runInstruction]
    exact Effect.ensures_bind fun _ => Effect.ensures_pure ⟨_, rfl⟩
  | .call name, frame, _ => by
    rw [Wat.runInstruction]
    split
    · exact Effect.ensures_bind fun _ => Effect.ensures_bind fun _ => Effect.ensures_bind fun _ =>
        Effect.ensures_bind fun _ => Effect.ensures_pure ⟨_, rfl⟩
    · exact Effect.ensures_bind fun _ => Effect.ensures_bind fun _ => Effect.ensures_bind fun _ =>
        Effect.ensures_pure ⟨_, rfl⟩
  | .drop, frame, _ => by
    rw [Wat.runInstruction]
    split
    · exact Effect.ensures_fail
    · exact Effect.ensures_pure ⟨_, rfl⟩
  | .ifElse consequent alternate, frame, h => by
    rw [Wat.Instruction.branches, Bool.or_eq_false_iff] at h
    rw [Wat.runInstruction]
    refine Effect.ensures_bind fun taken => ?_
    dsimp only
    split
    · exact runBody_ensures_next consequent _ h.1
    · exact runBody_ensures_next alternate _ h.2
  | .block label body, frame, h => by
    rw [Wat.Instruction.branches] at h
    rw [Wat.runInstruction]
    refine (runBody_ensures_next body frame h).bind fun exit next => ?_
    obtain ⟨after, rfl⟩ := next
    exact Effect.ensures_pure ⟨after, rfl⟩
  | .br label, frame, h => by
    rw [Wat.Instruction.branches] at h
    cases h

theorem runBody_ensures_next : ∀ (body : List Instruction) (frame : Frame α),
    Wat.anyBranches body = false →
    (runBody A function? invoke body frame).Ensures fun exit => ∃ frame, exit = .next frame
  | [], frame, _ => by
    rw [runBody]
    exact Effect.ensures_pure ⟨frame, rfl⟩
  | instruction :: rest, frame, h => by
    rw [Wat.anyBranches, Bool.or_eq_false_iff] at h
    rw [runBody_cons]
    refine (runInstruction_ensures_next instruction frame h.1).bind fun exit next => ?_
    obtain ⟨after, rfl⟩ := next
    exact runBody_ensures_next rest after h.2
end

/-- A block from which nothing branches is run as its body. -/
theorem run_block_of_no_branch {code : List Instruction} (h : Wat.anyBranches code = false)
    (label : String) (frame : Frame α) :
    Wat.runInstruction A function? invoke (.block label code) frame =
      runBody A function? invoke code frame := by
  have ends : (runBody A function? invoke code frame).Ensures fun exit =>
      ∃ frame, exit = .next frame := runBody_ensures_next code frame h
  have same : (runBody A function? invoke code frame >>= fun exit => pure (exit.leave label)) =
      (runBody A function? invoke code frame >>= pure) := by
    refine ends.bind_congr ?_
    rintro _ ⟨after, rfl⟩
    rfl
  rw [Wat.runInstruction, same, bind_pure]

/-- **The body of a function leaves its result**, which is what the slot held before if the statements
    do not return. -/
theorem run_closeBody (calls : CallsAgree scope call function? invoke)
    (apart : Wat.resultSlot ∉ scope.slots) {body : List Statement} {code : List Instruction}
    (h : lowerStatements scope true body = .ok code)
    (declared : ∀ name ∈ varNamesOf body, name ∈ scope.slots) {slots : Slots α}
    (covers : slots.Covers scope.slots) (result : α) :
    runBody A function? invoke (closeBody code) ⟨[], slots.insert Wat.resultSlot result⟩ =
      (execute A call slots body >>= fun outcome => pure (.next
        ⟨[.float (outcome.returned.getD result)],
          outcome.slots.insert Wat.resultSlot (outcome.returned.getD result)⟩)) := by
  have block := run_exitBlock (A := A) calls apart body h declared covers result []
  have closed : runBody A function? invoke (closeBody code)
      ⟨[], slots.insert Wat.resultSlot result⟩ =
      (Wat.runInstruction A function? invoke (.block Wat.exitLabel code)
        ⟨[], slots.insert Wat.resultSlot result⟩ >>=
          Exit.andThen (runBody A function? invoke [.localGet Wat.resultSlot])) := by
    unfold closeBody
    cases branches : Wat.anyBranches code with
    | true => rw [if_pos rfl, List.singleton_append, runBody_cons]
    | false => rw [if_neg Bool.false_ne_true, runBody_append, run_block_of_no_branch branches]
  rw [closed, block, bind_assoc]
  refine bind_congr fun outcome => ?_
  rw [pure_bind, Exit.andThen, runBody_cons, Wat.runInstruction]
  simp only [Slots.insert_same, Effect.ofOption_some, pure_bind]
  rw [Exit.andThen, runBody]

end Lowered

end NumScript
