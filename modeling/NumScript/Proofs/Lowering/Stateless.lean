import NumScript.Lowering

/-!
# Lowering without a state

What the parts of a program become, each by itself: the instructions of an expression are a function
of the expression and of what it may refer to, those of a statement are put together from those of its
parts, and so on up to the module of a program (`lowerProgram`). No part sees what was emitted before
it, and nothing has to be put in order between two functions; whether something branches out of a body
is read off its instructions (`Wat.anyBranches`).

This is what the emitter comes to. That it does is shown in `NumScript.Proofs.Lowering.Emission`, and
facts about lowered programs are proved from here.
-/

namespace NumScript

open Wat (Instruction)

/-! ## 1. Expressions -/

/-- The instructions of a sign, when its operand is on the stack. -/
def unaryInstructions : UnaryOperator → List Instruction
  | .plus => []
  | .negate => [.float .neg]

mutual
/-- The instructions that leave the value of an expression on the stack. -/
def lowerExpression (scope : Scope) : Expression → Except LowerError (List Instruction)
  | .number value => .ok [.const value]
  | .var name => do
    let slot ← scope.resolve name
    pure [.localGet slot]
  | .binary op left right =>
    if op.isRelational then .error (.comparisonAsValue op)
    else do
      let first ← lowerExpression scope left
      let second ← lowerExpression scope right
      pure (first ++ second ++ [.float (floatOperation op)])
  | .unary op operand => do
    let code ← lowerExpression scope operand
    pure (code ++ unaryInstructions op)
  | .call callee arguments => do
    scope.checkCall callee arguments.length
    let code ← lowerArguments scope arguments
    pure (code ++ [callInstruction callee])
  | .assign target _ => .error (.assignmentAsValue target)

/-- The instructions that leave the values of the arguments on the stack, the last one on top. -/
def lowerArguments (scope : Scope) : List Expression → Except LowerError (List Instruction)
  | [] => .ok []
  | argument :: rest => do
    let code ← lowerExpression scope argument
    let others ← lowerArguments scope rest
    pure (code ++ others)
end

/-- The instructions that leave an integer on the stack for the test of a condition. What is not a
    comparison is compared with zero. -/
def lowerCondition (scope : Scope) (test : Expression) : Except LowerError (List Instruction) :=
  let nonzero := do
    let code ← lowerExpression scope test
    pure (code ++ [.const Binary64.zero, .float .ne])
  match test with
  | .binary op left right =>
    if op.isRelational then do
      let first ← lowerExpression scope left
      let second ← lowerExpression scope right
      pure (first ++ second ++ [.float (floatOperation op)])
    else nonzero
  | _ => nonzero

/-! ## 2. Statements -/

/-- The instructions of a fault: where the message lies, how long it is, and the call. -/
def faultInstructions : List Instruction :=
  [.i32Const 0, .i32Const (Int32.ofNat Wat.faultMessage.utf8ByteSize), .call Wat.logFunction]

/-- The instructions of an expression that is a statement. -/
def lowerEffect (scope : Scope) (value : Expression) : Except LowerError (List Instruction) :=
  let dropped := do
    let code ← lowerExpression scope value
    pure (code ++ [.drop])
  match value with
  | .assign target source => do
    let code ← lowerExpression scope source
    let slot ← scope.resolve target
    pure (code ++ [.localSet slot])
  | .call callee arguments =>
    if callee = faultFunction then
      if arguments.isEmpty then .ok faultInstructions else .error (.faultArguments callee)
    else dropped
  | _ => dropped

mutual
/-- The instructions of one statement; `tail` says whether it stands at the tail. -/
def lowerStatement (scope : Scope) (tail : Bool) : Statement → Except LowerError (List Instruction)
  | .returnValue argument => do
    let code ← lowerExpression scope argument
    pure (code ++ .localSet Wat.resultSlot :: if tail then [] else [.br Wat.exitLabel])
  | .ifElse test consequent alternate => do
    let code ← lowerCondition scope test
    let first ← lowerStatements scope tail consequent
    let second ← lowerStatements scope tail alternate
    pure (code ++ [.ifElse first second])
  | .variableDeclaration _ none => .ok []
  | .variableDeclaration name (some init) => do
    let code ← lowerExpression scope init
    pure (code ++ [.localSet name])
  | .expression value => lowerEffect scope value
  | .function name _ _ => .error (.nestedFunction name)
  | .exportFunction _ _ _ => .error .nestedExport
  | .exportSpecifiers _ => .error .nestedExport

/-- The instructions of a list of statements; `tail` says whether the list stands at the tail. Of its
    statements only the last one does then, and a `return`, which nothing follows. -/
def lowerStatements (scope : Scope) (tail : Bool) :
    List Statement → Except LowerError (List Instruction)
  | [] => .ok []
  | statement :: rest =>
    if statement.isReturn then lowerStatement scope tail statement
    else do
      let code ← lowerStatement scope (tail && rest.isEmpty) statement
      let others ← lowerStatements scope tail rest
      pure (code ++ others)
end

/-! ## 3. Functions -/

mutual
/-- The variables that a statement declares, in order; a name may occur twice. -/
def Statement.varNames : Statement → List String
  | .variableDeclaration name _ => [name]
  | .ifElse _ consequent alternate => varNamesOf consequent ++ varNamesOf alternate
  | _ => []

/-- The variables that a list of statements declares, in order; a name may occur twice. -/
def varNamesOf : List Statement → List String
  | [] => []
  | statement :: rest => statement.varNames ++ varNamesOf rest
end

/-- Each name once, where it stands first. -/
def firstOccurrences : List String → List String
  | [] => []
  | name :: rest => name :: (firstOccurrences rest).filter (· != name)

@[simp] theorem mem_firstOccurrences {name : String} : ∀ {names : List String},
    name ∈ firstOccurrences names ↔ name ∈ names
  | [] => Iff.rfl
  | first :: rest => by
    have ih : name ∈ firstOccurrences rest ↔ name ∈ rest := mem_firstOccurrences
    by_cases same : name = first
    · simp [firstOccurrences, same]
    · simp [firstOccurrences, same, ih]

theorem nodup_firstOccurrences : ∀ names : List String, (firstOccurrences names).Nodup
  | [] => List.nodup_nil
  | first :: rest => by
    have ih := nodup_firstOccurrences rest
    rw [firstOccurrences, List.nodup_cons]
    exact ⟨by simp, ih.filter _⟩

/-- No parameter may be the result slot or repeat an earlier one. -/
def checkParams (function : String) (seen : List String) : List String → Except LowerError Unit
  | [] => .ok ()
  | param :: rest =>
    if param = Wat.resultSlot then .error (.reservedName param)
    else if param ∈ seen then .error (.duplicateParameter param function)
    else checkParams function (param :: seen) rest

/-- No variable may be the result slot. -/
def checkVariables (names : List String) : Except LowerError Unit :=
  if Wat.resultSlot ∈ names then .error (.reservedName Wat.resultSlot) else .ok ()

mutual
/-- Whether an instruction branches. -/
def Wat.Instruction.branches : Wat.Instruction → Bool
  | .br _ => true
  | .ifElse consequent alternate => Wat.anyBranches consequent || Wat.anyBranches alternate
  | .block _ body => Wat.anyBranches body
  | _ => false

/-- Whether an instruction of a body branches. -/
def Wat.anyBranches : List Wat.Instruction → Bool
  | [] => false
  | instruction :: rest => instruction.branches || Wat.anyBranches rest
end

theorem anyBranches_append : ∀ first second : List Instruction,
    Wat.anyBranches (first ++ second) = (Wat.anyBranches first || Wat.anyBranches second)
  | [], _ => rfl
  | instruction :: rest, second => by
    rw [List.cons_append, Wat.anyBranches, Wat.anyBranches, anyBranches_append rest second,
      Bool.or_assoc]

/-- The body of a function: in a block if something branches out of it, and then the result. -/
def closeBody (code : List Wat.Instruction) : List Wat.Instruction :=
  (if Wat.anyBranches code then [.block Wat.exitLabel code] else code) ++
    [.localGet Wat.resultSlot]

theorem closeBody_eq (code : List Instruction) : closeBody code =
    if Wat.anyBranches code then [.block Wat.exitLabel code, .localGet Wat.resultSlot]
    else code ++ [.localGet Wat.resultSlot] := by
  rw [closeBody]
  split
  · rfl
  · rfl

theorem closeBody_of_branches {code : List Instruction} (branches : Wat.anyBranches code = true) :
    closeBody code = [.block Wat.exitLabel code, .localGet Wat.resultSlot] := by
  rw [closeBody_eq, if_pos branches]

theorem closeBody_of_not_branches {code : List Instruction}
    (straight : Wat.anyBranches code = false) :
    closeBody code = code ++ [.localGet Wat.resultSlot] := by
  rw [closeBody_eq, straight, if_neg Bool.false_ne_true]

theorem anyBranches_closeBody (code : List Instruction) :
    Wat.anyBranches (closeBody code) = Wat.anyBranches code := by
  cases branches : Wat.anyBranches code with
  | true =>
    rw [closeBody_of_branches branches, Wat.anyBranches, Instruction.branches, branches]
    rfl
  | false =>
    rw [closeBody_of_not_branches branches, anyBranches_append, branches]
    rfl

/-- A function of the module. -/
def lowerFunction (signatures : List (String × Nat)) (function : FunctionDeclaration) :
    Except LowerError Wat.Function := do
  checkParams function.name [] function.params
  let declared := firstOccurrences (varNamesOf function.body)
  checkVariables declared
  let locals := declared.filter fun name => !function.params.contains name
  let code ← lowerStatements ⟨signatures, function.params ++ locals⟩ true function.body
  pure ⟨function.name, function.params, locals, closeBody code⟩

/-! ## 4. Signatures -/

/-- The functions that the statements declare, and the number of their parameters; `known` are the
    names declared before. -/
def signatures (known : List String) : List Statement → Except LowerError (List (String × Nat))
  | [] => .ok []
  | statement :: rest =>
    match statement.declared? with
    | none => signatures known rest
    | some function =>
      if function.name ∈ reservedFunctions then .error (.reservedName function.name)
      else if function.name ∈ known then .error (.duplicateFunction function.name)
      else do
        let others ← signatures (function.name :: known) rest
        pure ((function.name, function.params.length) :: others)

/-! ## 5. Programs -/

/-- A part of a module: functions and exports. -/
structure ModuleItems where
  /-- The functions in order. -/
  functions : List Wat.Function
  /-- The exports in order. -/
  exports : List Wat.Export

/-- An export under a name that is not taken. -/
def lowerExport (taken : List String) (name function : String) : Except LowerError Wat.Export :=
  if name ∈ taken then .error (.duplicateExport name) else .ok ⟨name, function⟩

/-- The exports of a list of specifiers; `taken` are the names exported before. -/
def lowerSpecifiers (signatures : List (String × Nat)) (taken : List String) :
    List ExportSpecifier → Except LowerError (List Wat.Export)
  | [] => .ok []
  | specifier :: rest => do
    if (signatures.lookup specifier.localName).isNone then
      throw (.unknownExport specifier.localName)
    let first ← lowerExport taken specifier.exportedName specifier.localName
    let others ← lowerSpecifiers signatures (specifier.exportedName :: taken) rest
    pure (first :: others)

/-- What a statement outside of all functions adds to the module. -/
def lowerItem (signatures : List (String × Nat)) (taken : List String) :
    Statement → Except LowerError ModuleItems
  | .function name params body => do
    let function ← lowerFunction signatures ⟨name, params, body⟩
    pure ⟨[function], []⟩
  | .exportFunction name params body => do
    let item ← lowerExport taken name name
    let function ← lowerFunction signatures ⟨name, params, body⟩
    pure ⟨[function], [item]⟩
  | .exportSpecifiers specifiers => do
    let items ← lowerSpecifiers signatures taken specifiers
    pure ⟨[], items⟩
  | statement => .error (.notAtModuleLevel statement)

/-- What a list of statements outside of all functions adds to the module. -/
def lowerItems (signatures : List (String × Nat)) (taken : List String) :
    List Statement → Except LowerError ModuleItems
  | [] => .ok ⟨[], []⟩
  | statement :: rest => do
    let first ← lowerItem signatures taken statement
    let others ← lowerItems signatures (first.exports.map Wat.Export.name ++ taken) rest
    pure ⟨first.functions ++ others.functions, first.exports ++ others.exports⟩

/-- The module of a program, put together from what its parts become. -/
def lowerProgram (width : Wat.FloatWidth) (program : Program) : Except LowerError Wat.Module := do
  let signatures ← signatures [] program.body
  let items ← lowerItems signatures [] program.body
  pure ⟨width, items.functions, items.exports⟩

end NumScript
