import NumScript.Lowering.Error
import NumScript.Wat.Module

/-!
# Emitting the body of a function

Expressions become instructions that leave their value on the stack, operands from left to right and
the operation last. Statements become instructions that leave the stack as they found it. A `return`
stores its value in the result slot. What follows it in the same list of statements is never run and
not lowered.

A list of statements stands at the TAIL when nothing of the function is run after it. There a `return`
needs no more than to store its value; everywhere else it also branches out of the body.

One EMITTER goes through the whole program, and every part of the program adds to what it holds. The
instructions of the function at hand are put at the end of its buffer. The blocks of a condition are
emitted into a buffer of their own, and the one around them is put aside meanwhile (`Emit.nested`).
That something branches out of the function is remembered (`Emitter.exits`), in whatever buffer the
branch is.
-/

namespace NumScript

open Wat (Instruction FloatOperation)

/-! ## 1. Names -/

/-- The function that writes the message, called for its effect only. -/
def faultFunction : String := "__error__"

/-- The function for the square root. -/
def sqrtFunction : String := "__sqrt__"

/-- What a body may refer to. -/
structure Scope where
  /-- The functions of the program and the number of their parameters. -/
  signatures : List (String × Nat)
  /-- The parameters and variables of the function at hand. -/
  slots : List String

/-- The number of parameters of a function that can be called for its value. -/
def Scope.arity? (scope : Scope) (callee : String) : Option Nat :=
  if callee = sqrtFunction then some 1 else scope.signatures.lookup callee

/-- A variable has to be in scope. -/
def Scope.resolve (scope : Scope) (name : String) : Except LowerError String :=
  if name ∈ scope.slots then .ok name else .error (.unknownVariable name)

/-- A call has to be of a known function, with as many arguments as that has parameters. -/
def Scope.checkCall (scope : Scope) (callee : String) (given : Nat) : Except LowerError Unit :=
  if callee = faultFunction then .error (.faultAsValue callee)
  else match scope.arity? callee with
    | none => .error (.unknownFunction callee)
    | some expected =>
      if given = expected then .ok () else .error (.wrongArity callee expected given)

/-! ## 2. The emitter -/

/-- What is known and emitted at some point of a program. -/
structure Emitter where
  /-- The width of the floats. -/
  width : Wat.FloatWidth
  /-- The functions of the program and the number of their parameters. -/
  signatures : List (String × Nat) := []
  /-- The functions that are finished, in order. -/
  functions : List Wat.Function := []
  /-- The exports so far, in order. -/
  exports : List Wat.Export := []
  /-- The parameters and variables of the function at hand. -/
  scope : List String := []
  /-- The buffer. -/
  code : List Instruction := []
  /-- Whether something branches out of the function at hand. -/
  exits : Bool := false

/-- What the body of the function at hand may refer to. -/
def Emitter.visible (emitter : Emitter) : Scope := ⟨emitter.signatures, emitter.scope⟩

/-- An action on the emitter, which an error ends. -/
abbrev Emit := StateT Emitter (Except LowerError)

namespace Emit

/-- One more instruction. -/
def instruction (instruction : Instruction) : Emit Unit :=
  modify fun emitter => { emitter with code := emitter.code ++ [instruction] }

/-- The buffer is emptied, and what was in it given back. -/
def takeCode : Emit (List Instruction) :=
  modifyGet fun emitter => (emitter.code, { emitter with code := [] })

/-- The instructions that an action emits, in a buffer of their own. -/
def nested (action : Emit Unit) : Emit (List Instruction) := do
  let outer ← takeCode
  action
  let inner ← takeCode
  modify fun emitter => { emitter with code := outer }
  pure inner

/-- A branch out of the function. -/
def leave : Emit Unit := do
  modify fun emitter => { emitter with exits := true }
  instruction (.br Wat.exitLabel)

/-- The emitter is asked what the body may refer to, and left as it is. -/
def consult {α : Type} (question : Scope → Except LowerError α) : Emit α := do
  question (← get).visible

end Emit

/-! ## 3. Expressions -/

/-- The operation that an operator stands for. -/
def floatOperation : BinaryOperator → FloatOperation
  | .add => .add
  | .subtract => .sub
  | .multiply => .mul
  | .divide => .div
  | .less => .lt
  | .greater => .gt
  | .lessEqual => .le
  | .greaterEqual => .ge
  | .equal => .eq
  | .notEqual => .ne

/-- The instruction of a call, when its arguments are on the stack. -/
def callInstruction (callee : String) : Instruction :=
  if callee = sqrtFunction then .float .sqrt else .call callee

/-- A sign, when its operand is on the stack. -/
def emitSign : UnaryOperator → Emit Unit
  | .plus => pure ()
  | .negate => Emit.instruction (.float .neg)

mutual
/-- The value of an expression is left on the stack. -/
def emitExpression : Expression → Emit Unit
  | .number value => Emit.instruction (.const value)
  | .var name => do
    let slot ← Emit.consult (·.resolve name)
    Emit.instruction (.localGet slot)
  | .binary op left right =>
    if op.isRelational then throw (.comparisonAsValue op)
    else do
      emitExpression left
      emitExpression right
      Emit.instruction (.float (floatOperation op))
  | .unary op operand => do
    emitExpression operand
    emitSign op
  | .call callee arguments => do
    Emit.consult (·.checkCall callee arguments.length)
    emitArguments arguments
    Emit.instruction (callInstruction callee)
  | .assign target _ => throw (.assignmentAsValue target)

/-- The values of the arguments are left on the stack, the last one on top. -/
def emitArguments : List Expression → Emit Unit
  | [] => pure ()
  | argument :: rest => do
    emitExpression argument
    emitArguments rest
end

/-- The result of a comparison is left on the stack, as an integer. -/
def emitComparison (op : BinaryOperator) (left right : Expression) : Emit Unit := do
  emitExpression left
  emitExpression right
  Emit.instruction (.float (floatOperation op))

/-- Whether an expression is zero is left on the stack, as an integer. -/
def emitNonzero (test : Expression) : Emit Unit := do
  emitExpression test
  Emit.instruction (.const Binary64.zero)
  Emit.instruction (.float .ne)

/-- An integer is left on the stack for the test of a condition. What is not a comparison is compared
    with zero. -/
def emitCondition (test : Expression) : Emit Unit :=
  match test with
  | .binary op left right =>
    if op.isRelational then emitComparison op left right else emitNonzero test
  | _ => emitNonzero test

/-! ## 4. Statements -/

/-- A fault: where the message lies, how long it is, and the call. -/
def emitFault : Emit Unit := do
  Emit.instruction (.i32Const 0)
  Emit.instruction (.i32Const (Int32.ofNat Wat.faultMessage.utf8ByteSize))
  Emit.instruction (.call Wat.logFunction)

/-- The value of an expression is not needed. -/
def emitDropped (value : Expression) : Emit Unit := do
  emitExpression value
  Emit.instruction .drop

/-- An expression that is a statement. -/
def emitEffect (value : Expression) : Emit Unit :=
  match value with
  | .assign target source => do
    emitExpression source
    let slot ← Emit.consult (·.resolve target)
    Emit.instruction (.localSet slot)
  | .call callee arguments =>
    if callee = faultFunction then
      if arguments.isEmpty then emitFault else throw (.faultArguments callee)
    else emitDropped value
  | _ => emitDropped value

/-- Whether a statement ends the list it stands in. -/
def Statement.isReturn : Statement → Bool
  | .returnValue _ => true
  | _ => false

mutual
/-- One statement of a list; `tail` says whether the list stands at the tail and `last` whether the
    statement is its last one. -/
def emitStatement (tail last : Bool) : Statement → Emit Unit
  | .returnValue argument => do
    emitExpression argument
    Emit.instruction (.localSet Wat.resultSlot)
    if tail then pure () else Emit.leave
  | .ifElse test consequent alternate => do
    emitCondition test
    let first ← Emit.nested (emitStatements (tail && last) consequent)
    let second ← Emit.nested (emitStatements (tail && last) alternate)
    Emit.instruction (.ifElse first second)
  | .variableDeclaration _ none => pure ()
  | .variableDeclaration name (some init) => do
    emitExpression init
    Emit.instruction (.localSet name)
  | .expression value => emitEffect value
  | .function name _ _ => throw (.nestedFunction name)
  | .exportFunction _ _ _ => throw .nestedExport
  | .exportSpecifiers _ => throw .nestedExport

/-- A list of statements, up to the first `return`; `tail` says whether it stands at the tail. -/
def emitStatements (tail : Bool) : List Statement → Emit Unit
  | [] => pure ()
  | statement :: rest => do
    emitStatement tail rest.isEmpty statement
    if statement.isReturn then pure () else emitStatements tail rest
end

end NumScript
