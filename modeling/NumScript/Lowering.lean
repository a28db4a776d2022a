import NumScript.Lowering.Emitter

/-!
# Lowering a program

A program is lowered in two passes. The first notes the names of its functions and the number of
their parameters, so that a function can be called and exported before it is declared
(`declareFunctions`); the second lowers the statements of the program in order (`emitItems`).

A function has one slot for each parameter and each variable of its body, wherever that is declared.
Its body is wrapped in a block only if something branches out of it. What the emitter holds of a
function is not put in order when the function is finished, but when the next one begins
(`emitFunction`).
-/

namespace NumScript

/-! ## 1. Slots -/

/-- A name is added to a list of names that does not have it. -/
def noteName (found : List String) (name : String) : List String :=
  if name ∈ found then found else found ++ [name]

mutual
/-- The names found before, and the variables that a statement declares, each once. -/
def Statement.collectLocals (found : List String) : Statement → List String
  | .variableDeclaration name _ => noteName found name
  | .ifElse _ consequent alternate => collectLocals (collectLocals found consequent) alternate
  | _ => found

/-- The names found before, and the variables that a list of statements declares, each once. -/
def collectLocals (found : List String) : List Statement → List String
  | [] => found
  | statement :: rest => collectLocals (statement.collectLocals found) rest
end

namespace Emit

/-- No slot may be the result slot. -/
def checkName (name : String) : Emit Unit :=
  if name = Wat.resultSlot then throw (.reservedName name) else pure ()

/-- A name is put in scope; gives whether it was not there before. -/
def bring (name : String) : Emit Bool := do
  if name ∈ (← get).scope then pure false
  else
    modify fun emitter => { emitter with scope := emitter.scope ++ [name] }
    pure true

end Emit

/-- The parameters of a function are put in scope. -/
def declareParams (function : String) : List String → Emit Unit
  | [] => pure ()
  | param :: rest => do
    Emit.checkName param
    let fresh ← Emit.bring param
    if fresh then declareParams function rest
    else throw (.duplicateParameter param function)

/-- The variables of a function are put in scope; gives those that need a slot. A variable with the
    name of a parameter uses the slot of the parameter. -/
def declareLocals : List String → Emit (List String)
  | [] => pure []
  | name :: rest => do
    Emit.checkName name
    let fresh ← Emit.bring name
    let slots ← declareLocals rest
    pure (if fresh then name :: slots else slots)

/-! ## 2. Functions -/

/-- The body of a function from its statements on: in a block if something branches out of it, and
    then the result. -/
def emitBody (statements : List Statement) : Emit (List Wat.Instruction) := do
  modify fun emitter => { emitter with code := [], exits := false }
  emitStatements true statements
  if (← get).exits then
    let body ← Emit.takeCode
    Emit.instruction (.block Wat.exitLabel body)
  Emit.instruction (.localGet Wat.resultSlot)
  Emit.takeCode

/-- A function of the module. -/
def emitFunction (function : FunctionDeclaration) : Emit Unit := do
  modify fun emitter => { emitter with scope := [] }
  declareParams function.name function.params
  let slots ← declareLocals (collectLocals [] function.body)
  let body ← emitBody function.body
  modify fun emitter => { emitter with
    functions := emitter.functions ++ [⟨function.name, function.params, slots, body⟩] }

/-! ## 3. Programs -/

/-- The names that no function may have. -/
def reservedFunctions : List String := [Wat.logFunction, faultFunction, sqrtFunction]

/-- A function can be called from now on. -/
def declareFunction (function : FunctionDeclaration) : Emit Unit := do
  if function.name ∈ reservedFunctions then throw (.reservedName function.name)
  if ((← get).signatures.lookup function.name).isSome then
    throw (.duplicateFunction function.name)
  modify fun emitter => { emitter with
    signatures := emitter.signatures ++ [(function.name, function.params.length)] }

/-- The functions that the statements declare can be called from now on. -/
def declareFunctions : List Statement → Emit Unit
  | [] => pure ()
  | statement :: rest => do
    match statement.declared? with
    | none => pure ()
    | some function => declareFunction function
    declareFunctions rest

/-- An export under a name that is not taken. -/
def emitExport (name function : String) : Emit Unit := do
  if (← get).exports.any (·.name == name) then throw (.duplicateExport name)
  modify fun emitter => { emitter with exports := emitter.exports ++ [⟨name, function⟩] }

/-- The exports of a list of specifiers. -/
def emitSpecifiers : List ExportSpecifier → Emit Unit
  | [] => pure ()
  | specifier :: rest => do
    if ((← get).signatures.lookup specifier.localName).isNone then
      throw (.unknownExport specifier.localName)
    emitExport specifier.exportedName specifier.localName
    emitSpecifiers rest

/-- A statement outside of all functions. -/
def emitItem : Statement → Emit Unit
  | .function name params body => emitFunction ⟨name, params, body⟩
  | .exportFunction name params body => do
    emitExport name name
    emitFunction ⟨name, params, body⟩
  | .exportSpecifiers specifiers => emitSpecifiers specifiers
  | statement => throw (.notAtModuleLevel statement)

/-- A list of statements outside of all functions. -/
def emitItems : List Statement → Emit Unit
  | [] => pure ()
  | statement :: rest => do
    emitItem statement
    emitItems rest

/-- The statements of a program. -/
def emitProgram (program : Program) : Emit Unit := do
  declareFunctions program.body
  emitItems program.body

/-- The module of what is finished. -/
def Emitter.module (emitter : Emitter) : Wat.Module :=
  ⟨emitter.width, emitter.functions, emitter.exports⟩

/-- The module of a program. -/
def lower (width : Wat.FloatWidth) (program : Program) : Except LowerError Wat.Module := do
  let result ← (emitProgram program).run { width }
  pure result.2.module

end NumScript
