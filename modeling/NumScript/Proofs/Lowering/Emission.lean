import NumScript.Proofs.Lowering.Stateless

/-!
# What the emitter comes to

One emitter goes through the whole program and carries everything with it: the scope of the function at
hand, the buffer, and whether something branched. Its parts do not depend on what it carries from the
parts before.

* An action on a body EMITS a list of instructions (`Emits`) if it puts them at the end of whatever is
  in the buffer and remembers a branch if one of them is a branch. The instructions are a function of
  the scope alone. That goes through every expression and statement, and through the buffers of nested
  blocks (`emits_statements`).
* A function begins with an empty scope, an empty buffer and no branch remembered. What is remembered
  at its end is a branch of its own, so its body is put in a block exactly if its instructions branch
  (`run_emitBody`), and the function that comes out depends on the signatures only
  (`run_emitFunction`).
* What the statements of the program add to the module does not depend on the rest of what the emitter
  holds (`Adds`), so the module is the one that is put together from the parts (`lower_eq`).
-/

namespace NumScript

open Wat (Instruction)

/-! ## 1. What an action emits -/

/-- The emitter with more instructions at the end of its buffer. That something branches out of the
    function is remembered if one of them does. -/
def Emitter.append (emitter : Emitter) (code : List Instruction) : Emitter :=
  { emitter with
    code := emitter.code ++ code
    exits := emitter.exits || Wat.anyBranches code }

/-- An action emits what these instructions are in the scope at hand, whatever was emitted before it,
    or it fails for the same reason. -/
def Emits (action : Emit Unit) (code? : Scope → Except LowerError (List Instruction)) : Prop :=
  ∀ emitter : Emitter, action.run emitter =
    (code? emitter.visible).map fun code => ((), emitter.append code)

@[simp] theorem Emitter.visible_append (emitter : Emitter) (code : List Instruction) :
    (emitter.append code).visible = emitter.visible := rfl

theorem Emitter.append_nil (emitter : Emitter) : emitter.append [] = emitter := by
  simp [Emitter.append, Wat.anyBranches]

theorem Emitter.append_append (emitter : Emitter) (first second : List Instruction) :
    (emitter.append first).append second = emitter.append (first ++ second) := by
  simp [Emitter.append, anyBranches_append, Bool.or_assoc]

/-- Two runs that end in the same state. -/
theorem ended_congr {first second : Emitter} (same : first = second) :
    (Except.ok ((), first) : Except LowerError (Unit × Emitter)) = .ok ((), second) := by
  rw [same]

theorem emits_pure : Emits (pure ()) fun _ => pure [] := by
  intro emitter
  rw [StateT.run_pure]
  exact ended_congr emitter.append_nil.symm

theorem emits_throw (error : LowerError) : Emits (throw error) fun _ => .error error :=
  fun _ => rfl

theorem emits_instruction {instruction : Instruction} (straight : instruction.branches = false) :
    Emits (Emit.instruction instruction) fun _ => pure [instruction] := by
  intro emitter
  have same : emitter.append [instruction] =
      { emitter with code := emitter.code ++ [instruction] } := by
    simp [Emitter.append, Wat.anyBranches, straight]
  exact ended_congr same.symm

theorem emits_leave : Emits Emit.leave fun _ => pure [.br Wat.exitLabel] := by
  intro emitter
  have same : emitter.append [.br Wat.exitLabel] =
      { emitter with code := emitter.code ++ [.br Wat.exitLabel], exits := true } := by
    simp [Emitter.append, Wat.anyBranches, Instruction.branches]
  exact ended_congr same.symm

section Actions

variable {first second : Emit Unit} {onFirst onSecond : Scope → Except LowerError (List Instruction)}

/-- One action after another emits the instructions of both. -/
theorem Emits.bind (h : Emits first onFirst) (h' : Emits second onSecond) :
    Emits (do first; second) (fun scope => do
      let code ← onFirst scope
      let others ← onSecond scope
      pure (code ++ others)) := by
  intro emitter
  rw [StateT.run_bind, h emitter]
  dsimp only
  cases onFirst emitter.visible with
  | error error => rfl
  | ok code =>
    show second.run (emitter.append code) = _
    rw [h' (emitter.append code), Emitter.visible_append]
    cases onSecond emitter.visible with
    | error error => rfl
    | ok others => exact ended_congr (emitter.append_append _ _)

theorem Emits.congr (h : Emits first onFirst) (same : ∀ scope, onFirst scope = onSecond scope) :
    Emits first onSecond := by
  intro emitter
  rw [h emitter, same]

/-- What the emitter is asked is asked of the scope. -/
theorem emits_consult {α : Type} {question : Scope → Except LowerError α} {action : α → Emit Unit}
    {code? : α → Scope → Except LowerError (List Instruction)}
    (h : ∀ answer, Emits (action answer) (code? answer)) :
    Emits (Emit.consult question >>= action) (fun scope => do
      let answer ← question scope
      code? answer scope) := by
  intro emitter
  have asked : (Emit.consult question).run emitter =
      (question emitter.visible).map fun answer => (answer, emitter) := by
    show (question emitter.visible >>= fun answer => .ok (answer, emitter)) = _
    cases question emitter.visible with
    | error error => rfl
    | ok answer => rfl
  rw [StateT.run_bind, asked]
  dsimp only
  cases question emitter.visible with
  | error error => rfl
  | ok answer => exact h answer emitter

/-- A buffer of its own is filled, and the one around it is as it was. Only that something branches is
    remembered. -/
theorem run_nested (h : Emits first onFirst) (emitter : Emitter) :
    (Emit.nested first).run emitter = (onFirst emitter.visible).map fun code =>
      (code, { emitter with exits := emitter.exits || Wat.anyBranches code }) := by
  have inner := h { emitter with code := [] }
  have sees : Emitter.visible { emitter with code := [] } = emitter.visible := rfl
  rw [sees] at inner
  have runs : (Emit.nested first).run emitter =
      (first.run { emitter with code := [] }).map fun result =>
        (result.2.code, { result.2 with code := emitter.code }) := by
    show (first.run { emitter with code := [] } >>= fun result =>
      .ok (result.2.code, { result.2 with code := emitter.code })) = _
    cases first.run { emitter with code := [] } with
    | error error => rfl
    | ok result => rfl
  rw [runs, inner]
  cases onFirst emitter.visible with
  | error error => rfl
  | ok code => rfl

end Actions

/-! ## 2. Expressions -/

theorem branches_callInstruction (callee : String) : (callInstruction callee).branches = false := by
  unfold callInstruction
  split
  · rfl
  · rfl

theorem emits_sign (op : UnaryOperator) :
    Emits (emitSign op) fun _ => pure (unaryInstructions op) := by
  cases op with
  | plus => exact emits_pure
  | negate => exact emits_instruction rfl

mutual
/-- **Expressions are emitted as they are lowered.** -/
theorem emits_expression : ∀ value : Expression,
    Emits (emitExpression value) fun scope => lowerExpression scope value
  | .number value => by
    rw [emitExpression]
    exact emits_instruction rfl
  | .var name => by
    rw [emitExpression]
    refine (emits_consult fun slot => emits_instruction rfl).congr fun scope => ?_
    rw [lowerExpression]
  | .binary op left right => by
    rw [emitExpression]
    split
    · rename_i relational
      refine (emits_throw _).congr fun scope => ?_
      rw [lowerExpression, if_pos relational]
    · rename_i arithmetic
      refine ((emits_expression left).bind ((emits_expression right).bind
        (emits_instruction rfl))).congr fun scope => ?_
      rw [lowerExpression, if_neg arithmetic]
      simp only [bind_assoc, pure_bind, List.append_assoc]
  | .unary op operand => by
    rw [emitExpression]
    refine ((emits_expression operand).bind (emits_sign op)).congr fun scope => ?_
    rw [lowerExpression]
    simp only [pure_bind]
  | .call callee arguments => by
    rw [emitExpression]
    refine (emits_consult fun _ => (emits_arguments arguments).bind
      (emits_instruction (branches_callInstruction callee))).congr fun scope => ?_
    rw [lowerExpression]
    simp only [pure_bind]
  | .assign target _ => emits_throw (.assignmentAsValue target)

theorem emits_arguments : ∀ arguments : List Expression,
    Emits (emitArguments arguments) fun scope => lowerArguments scope arguments
  | [] => by
    rw [emitArguments]
    exact emits_pure
  | argument :: rest => by
    rw [emitArguments]
    refine ((emits_expression argument).bind (emits_arguments rest)).congr fun scope => ?_
    rw [lowerArguments]
end

theorem emits_nonzero (test : Expression) : Emits (emitNonzero test) (fun scope => do
    let code ← lowerExpression scope test
    pure (code ++ [.const Binary64.zero, .float .ne])) := by
  refine ((emits_expression test).bind ((emits_instruction rfl).bind
    (emits_instruction rfl))).congr fun scope => ?_
  simp only [pure_bind, List.singleton_append]

theorem emits_comparison (op : BinaryOperator) (left right : Expression) :
    Emits (emitComparison op left right) (fun scope => do
      let first ← lowerExpression scope left
      let second ← lowerExpression scope right
      pure (first ++ second ++ [.float (floatOperation op)])) := by
  refine ((emits_expression left).bind ((emits_expression right).bind
    (emits_instruction rfl))).congr fun scope => ?_
  simp only [bind_assoc, pure_bind, List.append_assoc]

theorem emits_condition (test : Expression) :
    Emits (emitCondition test) fun scope => lowerCondition scope test := by
  unfold emitCondition
  split
  · split
    · rename_i op left right relational
      refine (emits_comparison op left right).congr fun scope => ?_
      simp only [lowerCondition, if_pos relational]
    · rename_i op left right arithmetic
      refine (emits_nonzero _).congr fun scope => ?_
      simp only [lowerCondition, if_neg arithmetic]
  · rename_i other
    refine (emits_nonzero _).congr fun scope => ?_
    unfold lowerCondition
    split
    · exact absurd rfl (other _ _ _)
    · rfl

/-! ## 3. Statements -/

theorem emits_fault : Emits emitFault fun _ => pure faultInstructions :=
  ((emits_instruction rfl).bind ((emits_instruction rfl).bind (emits_instruction rfl))).congr
    fun _ => rfl

theorem emits_dropped (value : Expression) : Emits (emitDropped value) (fun scope => do
    let code ← lowerExpression scope value
    pure (code ++ [.drop])) :=
  ((emits_expression value).bind (emits_instruction rfl)).congr fun scope => by
    simp only [pure_bind]

theorem emits_effect (value : Expression) :
    Emits (emitEffect value) fun scope => lowerEffect scope value := by
  cases value with
  | assign target source =>
    refine ((emits_expression source).bind
      (emits_consult fun slot => emits_instruction rfl)).congr fun scope => ?_
    simp only [lowerEffect, bind_assoc, pure_bind]
  | call callee arguments =>
    unfold emitEffect
    dsimp only
    split
    · rename_i isFault
      split
      · rename_i empty
        refine emits_fault.congr fun scope => ?_
        simp only [lowerEffect, if_pos isFault, if_pos empty]
        rfl
      · rename_i given
        refine (emits_throw _).congr fun scope => ?_
        simp only [lowerEffect, if_pos isFault, if_neg given]
    · rename_i other
      refine (emits_dropped _).congr fun scope => ?_
      simp only [lowerEffect, if_neg other]
  | _ => exact emits_dropped _

/-- The two blocks of a condition are emitted apart, and then the choice between them. -/
theorem emits_choice {first second : Emit Unit}
    {onFirst onSecond : Scope → Except LowerError (List Instruction)} (h : Emits first onFirst)
    (h' : Emits second onSecond) :
    Emits (do
      let consequent ← Emit.nested first
      let alternate ← Emit.nested second
      Emit.instruction (.ifElse consequent alternate)) (fun scope => do
        let consequent ← onFirst scope
        let alternate ← onSecond scope
        pure [.ifElse consequent alternate]) := by
  intro emitter
  rw [StateT.run_bind, run_nested h]
  dsimp only
  cases onFirst emitter.visible with
  | error error => rfl
  | ok consequent =>
    -- the second block begins with what the first one left remembered
    show ((Emit.nested second).run { emitter with exits := _ } >>= _) = _
    rw [run_nested h']
    show (Except.map _ (onSecond emitter.visible) >>= _) = _
    cases onSecond emitter.visible with
    | error error => rfl
    | ok alternate =>
      refine ended_congr ?_
      simp [Emitter.append, Wat.anyBranches, Instruction.branches, Bool.or_assoc]

/-- Where a statement of a list stands, if these are the places of the list and of the statement in
    it: only the last statement of a list at the tail is at the tail itself, and a `return`. -/
def Statement.atTail (statement : Statement) (tail last : Bool) : Bool :=
  if statement.isReturn then tail else tail && last

mutual
theorem emits_statement (tail last : Bool) : ∀ statement : Statement,
    Emits (emitStatement tail last statement)
      fun scope => lowerStatement scope (statement.atTail tail last) statement
  | .returnValue argument => by
    rw [emitStatement]
    cases tail with
    | true =>
      refine ((emits_expression argument).bind ((emits_instruction rfl).bind
        emits_pure)).congr fun scope => ?_
      rw [lowerStatement]
      simp only [pure_bind, List.append_nil]
      rfl
    | false =>
      refine ((emits_expression argument).bind ((emits_instruction rfl).bind
        emits_leave)).congr fun scope => ?_
      rw [lowerStatement]
      simp only [pure_bind, List.singleton_append]
      rfl
  | .ifElse test consequent alternate => by
    rw [emitStatement]
    refine ((emits_condition test).bind (emits_choice (emits_statements (tail && last) consequent)
      (emits_statements (tail && last) alternate))).congr fun scope => ?_
    rw [lowerStatement]
    simp only [bind_assoc, pure_bind]
    rfl
  | .variableDeclaration name none => by
    rw [emitStatement]
    exact emits_pure
  | .variableDeclaration name (some init) => by
    rw [emitStatement]
    refine ((emits_expression init).bind (emits_instruction rfl)).congr fun scope => ?_
    rw [lowerStatement]
    simp only [pure_bind]
  | .expression value => by
    rw [emitStatement]
    exact (emits_effect value).congr fun scope => by rw [lowerStatement]
  | .function name _ _ => emits_throw (.nestedFunction name)
  | .exportFunction _ _ _ => emits_throw .nestedExport
  | .exportSpecifiers _ => emits_throw .nestedExport

/-- **Statements are emitted as they are lowered**, and that something branches is remembered. -/
theorem emits_statements (tail : Bool) : ∀ statements : List Statement,
    Emits (emitStatements tail statements) fun scope => lowerStatements scope tail statements
  | [] => by
    rw [emitStatements]
    exact emits_pure
  | statement :: rest => by
    have first := emits_statement tail rest.isEmpty statement
    rw [emitStatements]
    cases ends : statement.isReturn with
    | true =>
      refine (first.bind emits_pure).congr fun scope => ?_
      rw [lowerStatements, if_pos ends, Statement.atTail, if_pos ends]
      simp only [pure_bind, List.append_nil, bind_pure]
    | false =>
      refine (first.bind (emits_statements tail rest)).congr fun scope => ?_
      rw [lowerStatements, ends, Statement.atTail, ends]
      rfl
end

/-! ## 4. Slots -/

mutual
theorem Statement.collectLocals_eq (found : List String) : ∀ statement : Statement,
    statement.collectLocals found = statement.varNames.foldl noteName found
  | .variableDeclaration name _ => rfl
  | .ifElse test consequent alternate => by
    rw [Statement.collectLocals, Statement.varNames, List.foldl_append,
      collectLocals_eq_foldl found consequent, collectLocals_eq_foldl _ alternate]
  | .function _ _ _ | .expression _ | .returnValue _ | .exportFunction _ _ _
  | .exportSpecifiers _ => by
    rw [Statement.collectLocals, Statement.varNames, List.foldl_nil] <;> intros <;> contradiction

/-- The names are collected in the order in which they are declared. -/
theorem collectLocals_eq_foldl (found : List String) : ∀ statements : List Statement,
    collectLocals found statements = (varNamesOf statements).foldl noteName found
  | [] => by rw [collectLocals, varNamesOf, List.foldl_nil]
  | statement :: rest => by
    rw [collectLocals, varNamesOf, List.foldl_append, Statement.collectLocals_eq found statement,
      collectLocals_eq_foldl _ rest]
end

/-- Names are noted where they stand first, if they were not found before. -/
theorem foldl_noteName : ∀ names found : List String, names.foldl noteName found =
    found ++ (firstOccurrences names).filter fun name => name ∉ found
  | [], found => by simp [firstOccurrences]
  | first :: rest, found => by
    rw [List.foldl_cons, foldl_noteName rest, firstOccurrences, noteName]
    by_cases known : first ∈ found
    · rw [if_pos known, List.filter_cons_of_neg (by simpa using known), List.filter_filter]
      refine congrArg (found ++ ·) (List.filter_congr fun name _ => ?_)
      by_cases same : name = first
      · simp [same, known]
      · simp [same]
    · rw [if_neg known, List.filter_cons_of_pos (by simpa using known), List.filter_filter,
        List.append_assoc, List.singleton_append]
      refine congrArg (found ++ first :: ·) (List.filter_congr fun name _ => ?_)
      by_cases same : name = first
      · simp [same]
      · simp [same]

/-- **Each variable is collected once, where it is declared first.** -/
theorem collectLocals_eq (statements : List Statement) :
    collectLocals [] statements = firstOccurrences (varNamesOf statements) := by
  rw [collectLocals_eq_foldl, foldl_noteName]
  simp

theorem run_bring (name : String) (emitter : Emitter) :
    (Emit.bring name).run emitter = .ok (if name ∈ emitter.scope then (false, emitter)
      else (true, { emitter with scope := emitter.scope ++ [name] })) := by
  show (if name ∈ emitter.scope then _ else _ : Emit Bool).run emitter = _
  split
  · rfl
  · rfl

/-- The parameters are put in scope if they are what they have to be. -/
theorem run_declareParams (function : String) : ∀ (seen params : List String) (emitter : Emitter),
    (∀ name, name ∈ seen ↔ name ∈ emitter.scope) →
    (declareParams function params).run emitter = (checkParams function seen params).map fun _ =>
      ((), { emitter with scope := emitter.scope ++ params })
  | seen, [], emitter, _ => by
    simp [declareParams, checkParams, Except.map]
    rfl
  | seen, param :: rest, emitter, same => by
    rw [checkParams, declareParams, StateT.run_bind]
    by_cases reserved : param = Wat.resultSlot
    · rw [if_pos reserved, Emit.checkName, if_pos reserved]
      rfl
    · rw [if_neg reserved, Emit.checkName, if_neg reserved]
      show ((Emit.bring param).run emitter >>= _) = _
      rw [run_bring]
      by_cases known : param ∈ emitter.scope
      · rw [if_pos known, if_pos ((same param).mpr known)]
        rfl
      · rw [if_neg known, if_neg fun mem => known ((same param).mp mem)]
        have later := run_declareParams function (param :: seen) rest
          { emitter with scope := emitter.scope ++ [param] }
          fun name => by simp [same, or_comm]
        refine later.trans ?_
        rw [List.append_assoc, List.singleton_append]

/-- Variables with different names are put in scope if none of them is the result slot, and those that
    were not there get a slot. -/
theorem run_declareLocals : ∀ {names : List String}, names.Nodup → ∀ emitter : Emitter,
    (declareLocals names).run emitter = (checkVariables names).map fun _ =>
      (names.filter fun name => name ∉ emitter.scope,
        { emitter with scope := emitter.scope ++ names.filter fun name => name ∉ emitter.scope })
  | [], _, emitter => by
    simp [declareLocals, checkVariables, Except.map]
    rfl
  | name :: rest, distinct, emitter => by
    obtain ⟨apart, distinct⟩ := List.nodup_cons.mp distinct
    rw [declareLocals, StateT.run_bind]
    by_cases reserved : name = Wat.resultSlot
    · rw [Emit.checkName, if_pos reserved, checkVariables, if_pos (by simp [reserved])]
      show Except.error (LowerError.reservedName name) = .error (.reservedName Wat.resultSlot)
      rw [reserved]
    · have checked : checkVariables (name :: rest) = checkVariables rest := by
        simp [checkVariables, Ne.symm reserved]
      rw [checked, Emit.checkName, if_neg reserved]
      show ((Emit.bring name).run emitter >>= _) = _
      rw [run_bring]
      by_cases known : name ∈ emitter.scope
      · rw [if_pos known, List.filter_cons_of_neg (by simpa using known)]
        show ((declareLocals rest).run emitter >>= _) = _
        rw [run_declareLocals distinct emitter]
        cases checkVariables rest with
        | error error => rfl
        | ok _ => rfl
      · -- the other names meet a larger scope, but this name is not among them
        have others : rest.filter (fun other => other ∉ emitter.scope ++ [name]) =
            rest.filter fun other => other ∉ emitter.scope := by
          refine List.filter_congr fun other mem => ?_
          have different : other ≠ name := fun same => apart (same ▸ mem)
          simp [different]
        rw [if_neg known, List.filter_cons_of_pos (by simpa using known)]
        show ((declareLocals rest).run { emitter with scope := emitter.scope ++ [name] } >>= _) = _
        rw [run_declareLocals distinct]
        dsimp only
        rw [others]
        cases checkVariables rest with
        | error error => rfl
        | ok _ =>
          show Except.ok _ = Except.ok _
          simp

/-! ## 5. Functions -/

/-- The emitter at the beginning of a body: with an empty buffer, and no branch remembered. -/
def Emitter.atBody (emitter : Emitter) : Emitter := { emitter with code := [], exits := false }

/-- The statements of a body leave their instructions in the buffer, and that one of them branches is
    all that is remembered. -/
theorem run_statements_atBody (statements : List Statement) (emitter : Emitter) :
    (emitStatements true statements).run emitter.atBody =
      (lowerStatements emitter.visible true statements).map fun code =>
        ((), { emitter with code := code, exits := Wat.anyBranches code }) := by
  have emits := emits_statements true statements emitter.atBody
  simpa [Emitter.append, Emitter.atBody, Emitter.visible] using emits

/-- The body is put in a block if a branch is remembered when its statements are emitted. -/
theorem run_emitBody_of_run {statements : List Statement} {emitter after : Emitter}
    (h : (emitStatements true statements).run emitter.atBody = .ok ((), after)) :
    (emitBody statements).run emitter =
      .ok (if after.exits then [.block Wat.exitLabel after.code, .localGet Wat.resultSlot]
        else after.code ++ [.localGet Wat.resultSlot], { after with code := [] }) := by
  show ((emitStatements true statements).run emitter.atBody >>= _) = _
  rw [h]
  show StateT.run (if after.exits = true then _ else _ : Emit _) after = _
  split
  · rfl
  · rfl

/-- **The body is closed as its instructions ask for it.** What is remembered at its end is a branch of
    its own: the emitter has forgotten what it remembered before. -/
theorem run_emitBody (statements : List Statement) (emitter : Emitter) :
    (emitBody statements).run emitter =
      (lowerStatements emitter.visible true statements).map fun code =>
        (closeBody code, { emitter with code := [], exits := Wat.anyBranches code }) := by
  have inner := run_statements_atBody statements emitter
  cases lowered : lowerStatements emitter.visible true statements with
  | error error =>
    rw [lowered] at inner
    show ((emitStatements true statements).run emitter.atBody >>= _) = _
    rw [inner]
    rfl
  | ok code =>
    rw [lowered] at inner
    rw [run_emitBody_of_run inner, ← closeBody_eq]
    rfl

/-- The emitter after a function is finished. The scope of the function and whether something branches
    out of it are left as they are. -/
def Emitter.finish (emitter : Emitter) (lowered : Wat.Function) : Emitter :=
  { emitter with
    functions := emitter.functions ++ [lowered]
    scope := lowered.params ++ lowered.locals
    code := []
    exits := Wat.anyBranches lowered.body }

/-- **A function is emitted as it is lowered**, whatever the emitter holds of the functions before. -/
theorem run_emitFunction (function : FunctionDeclaration) (emitter : Emitter) :
    (emitFunction function).run emitter =
      (lowerFunction emitter.signatures function).map fun lowered => ((), emitter.finish lowered) := by
  show ((declareParams function.name function.params).run { emitter with scope := [] } >>= _) = _
  rw [run_declareParams _ [] _ _ fun _ => Iff.rfl, lowerFunction]
  dsimp only
  cases checkParams function.name [] function.params with
  | error error => rfl
  | ok _ =>
    show ((declareLocals (collectLocals [] function.body)).run
      { emitter with scope := function.params } >>= _) = _
    rw [collectLocals_eq, run_declareLocals (nodup_firstOccurrences _)]
    dsimp only
    show _ = Except.map _ (checkVariables (firstOccurrences (varNamesOf function.body)) >>= _)
    cases checkVariables (firstOccurrences (varNamesOf function.body)) with
    | error error => rfl
    | ok _ =>
      have keep : (fun name => decide (name ∉ function.params)) =
          fun name => !function.params.contains name := by
        funext name
        simp
      rw [keep]
      generalize (firstOccurrences (varNamesOf function.body)).filter _ = locals
      show ((emitBody function.body).run { emitter with scope := function.params ++ locals } >>= _) = _
      rw [run_emitBody]
      show (Except.map _ (lowerStatements ⟨emitter.signatures, function.params ++ locals⟩ true
        function.body) >>= _) = Except.map _ (lowerStatements _ true function.body >>= _)
      cases lowerStatements ⟨emitter.signatures, function.params ++ locals⟩ true function.body with
      | error error => rfl
      | ok code =>
        refine ended_congr ?_
        rw [Emitter.finish, anyBranches_closeBody]

/-! ## 6. Programs -/

theorem run_declareFunction (function : FunctionDeclaration) (emitter : Emitter) :
    (declareFunction function).run emitter =
      if function.name ∈ reservedFunctions then .error (.reservedName function.name)
      else if (emitter.signatures.lookup function.name).isSome then
        .error (.duplicateFunction function.name)
      else .ok ((), { emitter with
        signatures := emitter.signatures ++ [(function.name, function.params.length)] }) := by
  unfold declareFunction
  by_cases reserved : function.name ∈ reservedFunctions
  · rw [if_pos reserved, if_pos reserved]
    rfl
  · rw [if_neg reserved, if_neg reserved]
    show StateT.run (if (emitter.signatures.lookup function.name).isSome = true then _ else _ :
      Emit Unit) emitter = _
    split
    · rfl
    · rfl

/-- The functions of the program are noted in their order. -/
theorem run_declareFunctions : ∀ (known : List String) (body : List Statement) (emitter : Emitter),
    (∀ name, name ∈ known ↔ (emitter.signatures.lookup name).isSome = true) →
    (declareFunctions body).run emitter = (signatures known body).map fun found =>
      ((), { emitter with signatures := emitter.signatures ++ found })
  | known, [], emitter, _ => by
    rw [declareFunctions, signatures]
    simp [Except.map]
    rfl
  | known, statement :: rest, emitter, same => by
    rw [declareFunctions, signatures]
    cases declared : statement.declared? with
    | none => exact run_declareFunctions known rest emitter same
    | some function =>
      show ((declareFunction function).run emitter >>= _) = _
      rw [run_declareFunction]
      dsimp only
      by_cases reserved : function.name ∈ reservedFunctions
      · rw [if_pos reserved, if_pos reserved]
        rfl
      · rw [if_neg reserved, if_neg reserved]
        by_cases repeated : function.name ∈ known
        · rw [if_pos repeated, if_pos ((same _).mp repeated)]
          rfl
        · rw [if_neg repeated, if_neg fun found => repeated ((same _).mpr found)]
          have later := run_declareFunctions (function.name :: known) rest { emitter with
            signatures := emitter.signatures ++ [(function.name, function.params.length)] }
            fun name => by
              rw [List.mem_cons, same, List.lookup_append, Option.isSome_or, Bool.or_eq_true, or_comm]
              by_cases this : name = function.name
              · simp [this]
              · simp [this]
          refine later.trans ?_
          cases signatures (function.name :: known) rest with
          | error error => rfl
          | ok others =>
            refine ended_congr ?_
            rw [List.append_assoc, List.singleton_append]

/-- The emitter has these functions and exports more, and nothing else of what lasts is different. -/
structure Emitter.Grows (emitter : Emitter) (items : ModuleItems) (after : Emitter) : Prop where
  width : after.width = emitter.width
  signatures : after.signatures = emitter.signatures
  functions : after.functions = emitter.functions ++ items.functions
  exports : after.exports = emitter.exports ++ items.exports

/-- A run adds these functions and exports to the module, or fails for the same reason. -/
inductive Adds (emitter : Emitter) :
    Except LowerError (Unit × Emitter) → Except LowerError ModuleItems → Prop
  | failed (error : LowerError) : Adds emitter (.error error) (.error error)
  | added {items : ModuleItems} {after : Emitter} (grows : emitter.Grows items after) :
      Adds emitter (.ok ((), after)) (.ok items)

/-- The names that are exported. -/
def Emitter.Exported (emitter : Emitter) (taken : List String) : Prop :=
  ∀ name, name ∈ taken ↔ name ∈ emitter.exports.map Wat.Export.name

theorem Emitter.Grows.exported {emitter after : Emitter} {items : ModuleItems} {taken : List String}
    (h : emitter.Grows items after) (same : emitter.Exported taken) :
    after.Exported (items.exports.map Wat.Export.name ++ taken) := by
  intro name
  rw [h.exports, List.map_append, List.mem_append, List.mem_append, same, or_comm]

section Items

variable {emitter : Emitter} {taken : List String}

theorem Adds.bind {first second : Emit Unit} {items : Except LowerError ModuleItems}
    {next : ModuleItems → Except LowerError ModuleItems} (h : Adds emitter (first.run emitter) items)
    (h' : ∀ found after, emitter.Grows found after → Adds after (second.run after) (next found)) :
    Adds emitter ((do first; second : Emit Unit).run emitter) (do
      let found ← items
      let others ← next found
      pure ⟨found.functions ++ others.functions, found.exports ++ others.exports⟩) := by
  rw [StateT.run_bind]
  generalize first.run emitter = run at h
  cases h with
  | failed error => exact .failed error
  | @added found after grows =>
    have later := h' found after grows
    show Adds emitter (second.run after) (next found >>= _)
    generalize second.run after = run at later
    generalize next found = items at later
    cases later with
    | failed error => exact .failed error
    | added grows' =>
      refine .added ⟨grows'.width.trans grows.width, grows'.signatures.trans grows.signatures, ?_, ?_⟩
      · rw [grows'.functions, grows.functions, List.append_assoc]
      · rw [grows'.exports, grows.exports, List.append_assoc]

theorem adds_function (function : FunctionDeclaration) :
    Adds emitter ((emitFunction function).run emitter) (do
      let lowered ← lowerFunction emitter.signatures function
      pure ⟨[lowered], []⟩) := by
  rw [run_emitFunction]
  cases lowerFunction emitter.signatures function with
  | error error => exact .failed error
  | ok lowered => exact .added ⟨rfl, rfl, rfl, (List.append_nil _).symm⟩

theorem adds_export (same : emitter.Exported taken) (name function : String) :
    Adds emitter ((emitExport name function).run emitter) (do
      let item ← lowerExport taken name function
      pure ⟨[], [item]⟩) := by
  have runs : (emitExport name function).run emitter =
      if emitter.exports.any (·.name == name) then .error (.duplicateExport name)
      else .ok ((), { emitter with exports := emitter.exports ++ [⟨name, function⟩] }) := by
    show StateT.run (if emitter.exports.any (·.name == name) = true then _ else _ : Emit Unit)
      emitter = _
    split
    · rfl
    · rfl
  have known : emitter.exports.any (·.name == name) = true ↔ name ∈ taken := by
    rw [same]
    simp
  rw [runs, lowerExport]
  by_cases repeated : name ∈ taken
  · rw [if_pos (known.mpr repeated), if_pos repeated]
    exact .failed _
  · rw [if_neg fun found => repeated (known.mp found), if_neg repeated]
    exact .added ⟨rfl, rfl, (List.append_nil _).symm, rfl⟩

theorem Adds.of_eq {run : Except LowerError (Unit × Emitter)}
    {items others : Except LowerError ModuleItems} (h : Adds emitter run items)
    (same : items = others) : Adds emitter run others :=
  same ▸ h

theorem adds_specifiers : ∀ (specifiers : List ExportSpecifier) {emitter : Emitter}
    {taken : List String}, emitter.Exported taken →
    Adds emitter ((emitSpecifiers specifiers).run emitter) (do
      let items ← lowerSpecifiers emitter.signatures taken specifiers
      pure ⟨[], items⟩)
  | [], emitter, taken, _ => .added ⟨rfl, rfl, (List.append_nil _).symm, (List.append_nil _).symm⟩
  | specifier :: rest, emitter, taken, same => by
    rw [emitSpecifiers, lowerSpecifiers]
    show Adds emitter (StateT.run (if (emitter.signatures.lookup specifier.localName).isNone = true
      then _ else _ : Emit Unit) emitter) _
    split
    · exact .failed _
    · have later : ∀ found after, emitter.Grows found after →
          Adds after ((emitSpecifiers rest).run after) (do
            let others ← lowerSpecifiers emitter.signatures
              (found.exports.map Wat.Export.name ++ taken) rest
            pure ⟨[], others⟩) := by
        intro found after grows
        rw [← grows.signatures]
        exact adds_specifiers rest (grows.exported same)
      refine ((adds_export same specifier.exportedName specifier.localName).bind later).of_eq ?_
      dsimp only
      cases lowered : lowerExport taken specifier.exportedName specifier.localName with
      | error error => rfl
      | ok item =>
        have named : item.name = specifier.exportedName := by
          rw [lowerExport] at lowered
          split at lowered
          · cases lowered
          · cases lowered
            rfl
        show (lowerSpecifiers emitter.signatures (item.name :: taken) rest >>= _) >>= _ =
          (lowerSpecifiers emitter.signatures (specifier.exportedName :: taken) rest >>= _) >>= _
        rw [named]
        cases lowerSpecifiers emitter.signatures (specifier.exportedName :: taken) rest with
        | error error => rfl
        | ok others => rfl

/-- **A statement adds to the module what it becomes.** -/
theorem adds_item (same : emitter.Exported taken) (statement : Statement) :
    Adds emitter ((emitItem statement).run emitter)
      (lowerItem emitter.signatures taken statement) := by
  cases statement with
  | function name params body => exact adds_function ⟨name, params, body⟩
  | exportFunction name params body =>
    have later : ∀ found after, emitter.Grows found after →
        Adds after ((emitFunction ⟨name, params, body⟩).run after) (do
          let lowered ← lowerFunction emitter.signatures ⟨name, params, body⟩
          pure ⟨[lowered], []⟩) := by
      intro found after grows
      rw [← grows.signatures]
      exact adds_function ⟨name, params, body⟩
    refine ((adds_export same name name).bind later).of_eq ?_
    rw [lowerItem]
    cases lowerExport taken name name with
    | error error => rfl
    | ok item =>
      show (lowerFunction emitter.signatures ⟨name, params, body⟩ >>= _) >>= _ =
        lowerFunction emitter.signatures ⟨name, params, body⟩ >>= _
      cases lowerFunction emitter.signatures ⟨name, params, body⟩ with
      | error error => rfl
      | ok lowered => rfl
  | exportSpecifiers specifiers => exact adds_specifiers specifiers same
  | _ => exact .failed _

theorem adds_items : ∀ (body : List Statement) {emitter : Emitter} {taken : List String},
    emitter.Exported taken →
    Adds emitter ((emitItems body).run emitter) (lowerItems emitter.signatures taken body)
  | [], emitter, taken, _ => .added ⟨rfl, rfl, (List.append_nil _).symm, (List.append_nil _).symm⟩
  | statement :: rest, emitter, taken, same => by
    rw [emitItems, lowerItems]
    refine (adds_item same statement).bind fun found after grows => ?_
    rw [← grows.signatures]
    exact adds_items rest (grows.exported same)

end Items

/-- **One emitter for the whole program gives what the parts of the program become.** -/
theorem lower_eq (width : Wat.FloatWidth) (program : Program) :
    lower width program = lowerProgram width program := by
  show ((declareFunctions program.body).run { width } >>= _) >>= _ = _
  rw [run_declareFunctions [] program.body { width } fun name => by simp, lowerProgram]
  cases signatures [] program.body with
  | error error => rfl
  | ok signatures =>
    -- the first pass leaves nothing but signatures, so no name is exported yet
    have free : Emitter.Exported { width, signatures } [] := fun name => Iff.rfl
    have added := adds_items program.body free
    show ((emitItems program.body).run { width, signatures } >>= fun result => .ok result.2.module) =
      (lowerItems signatures [] program.body >>= _)
    dsimp only at added
    generalize (emitItems program.body).run { width, signatures } = run at added ⊢
    generalize lowerItems signatures [] program.body = items at added ⊢
    cases added with
    | failed error => rfl
    | added grows =>
      refine congrArg Except.ok ?_
      rw [Emitter.module, grows.width, grows.functions, grows.exports]
      rfl

end NumScript
