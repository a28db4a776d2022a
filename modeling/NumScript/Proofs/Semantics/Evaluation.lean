import NumScript.Proofs.Lowering.Stateless
import NumScript.Proofs.Semantics.Value

/-!
# What a program means

A program is evaluated as it is written. The operands of an operator and the arguments of a call are
evaluated from left to right. A function has one slot for each parameter and for each variable that
its body declares anywhere; variables begin at zero, and a declaration without a first value does
nothing. A `return` ends the function at once, in whatever block it stands. A function that ends
without one gives zero.

The language has no loops, so only calls can go on for ever. Expressions and statements are evaluated
by recursion on them, with the meaning of calls given (`call`); `Program.apply` then bounds how deep
the calls may be nested, and a program gives a result when it does so for some depth
(`Program.Returns`).
-/

namespace NumScript

/-! ## 1. Operators -/

section Operators

variable {α : Type} (A : Arithmetic α)

/-- The result of an operator between two numbers; a comparison gives no number. -/
def Arithmetic.combine : BinaryOperator → α → α → Option α
  | .add, x, y => some (A.add x y)
  | .subtract, x, y => some (A.sub x y)
  | .multiply, x, y => some (A.mul x y)
  | .divide, x, y => some (A.div x y)
  | _, _, _ => none

/-- Whether a comparison of two numbers holds; the other operators compare nothing. -/
def Arithmetic.compare : BinaryOperator → α → α → Option Bool
  | .less, x, y => some (A.lt x y)
  | .greater, x, y => some (A.gt x y)
  | .lessEqual, x, y => some (A.le x y)
  | .greaterEqual, x, y => some (A.ge x y)
  | .equal, x, y => some (A.eq x y)
  | .notEqual, x, y => some (A.ne x y)
  | _, _, _ => none

/-- A number with a sign before it. -/
def Arithmetic.signed : UnaryOperator → α → α
  | .plus, x => x
  | .negate, x => A.neg x

/-- The square root of the only argument. -/
def Arithmetic.root : List α → Option α
  | [x] => some (A.sqrt x)
  | _ => none

end Operators

/-! ## 2. Expressions -/

section Evaluation

variable {α : Type} (A : Arithmetic α) (call : String → List α → Effect α)

mutual
/-- The value of an expression. -/
def evaluate (slots : Slots α) : Expression → Effect α
  | .number value => pure (A.const value)
  | .var name => .ofOption (slots name)
  | .binary op left right => do
    let x ← evaluate slots left
    let y ← evaluate slots right
    .ofOption (A.combine op x y)
  | .unary op operand => do
    let x ← evaluate slots operand
    pure (A.signed op x)
  | .call callee arguments => do
    let values ← evaluateAll slots arguments
    if callee = sqrtFunction then .ofOption (A.root values) else call callee values
  | .assign _ _ => .fail

/-- The values of expressions, from left to right. -/
def evaluateAll (slots : Slots α) : List Expression → Effect (List α)
  | [] => pure []
  | argument :: rest => do
    let value ← evaluate slots argument
    let values ← evaluateAll slots rest
    pure (value :: values)
end

/-- Whether the test of a condition holds: a comparison, or any other expression that is not zero. -/
def evaluateTest (slots : Slots α) (test : Expression) : Effect Bool :=
  let nonzero := do
    let x ← evaluate A call slots test
    pure (A.ne x A.zero)
  match test with
  | .binary op left right =>
    if op.isRelational then do
      let x ← evaluate A call slots left
      let y ← evaluate A call slots right
      .ofOption (A.compare op x y)
    else nonzero
  | _ => nonzero

/-! ## 3. Statements -/

/-- What an expression that is a statement does to the slots. -/
def executeEffect (slots : Slots α) (value : Expression) : Effect (Slots α) :=
  let dropped := do
    let _ ← evaluate A call slots value
    pure slots
  match value with
  | .assign target source => do
    let x ← evaluate A call slots source
    .ofOption (slots.assign target x)
  | .call callee arguments =>
    if callee = faultFunction then
      if arguments.isEmpty then do
        Effect.say "ERROR"
        pure slots
      else .fail
    else dropped
  | _ => dropped

/-- What statements lead to: the slots after them, and the result if a `return` ended them. -/
structure Outcome (α : Type) where
  /-- The slots. -/
  slots : Slots α
  /-- The result of the function, if it has one already. -/
  returned : Option α

mutual
/-- What a statement leads to. -/
def executeStatement (slots : Slots α) : Statement → Effect (Outcome α)
  | .returnValue argument => do
    let x ← evaluate A call slots argument
    pure ⟨slots, some x⟩
  | .ifElse test consequent alternate => do
    let holds ← evaluateTest A call slots test
    if holds then execute slots consequent else execute slots alternate
  | .variableDeclaration _ none => pure ⟨slots, none⟩
  | .variableDeclaration name (some init) => do
    let x ← evaluate A call slots init
    let slots ← .ofOption (slots.assign name x)
    pure ⟨slots, none⟩
  | .expression value => do
    let slots ← executeEffect A call slots value
    pure ⟨slots, none⟩
  | .function .. | .exportFunction .. | .exportSpecifiers _ => .fail

/-- What a list of statements leads to; after a `return` the rest is not executed. -/
def execute (slots : Slots α) : List Statement → Effect (Outcome α)
  | [] => pure ⟨slots, none⟩
  | statement :: rest => do
    let outcome ← executeStatement slots statement
    if outcome.returned.isSome then pure outcome else execute outcome.slots rest
end

/-! ## 4. Functions -/

/-- The slots with which a function begins: its parameters hold the arguments, and the variables that
    are not parameters hold zero. -/
def Slots.initial (params vars : List String) (args : List α) : Slots α := fun name =>
  ((params.zip args).lookup name).or (if name ∈ vars then some A.zero else none)

/-- The result of a function, which needs an argument for each parameter. -/
def FunctionDeclaration.apply (function : FunctionDeclaration) (args : List α) : Effect α :=
  if args.length = function.params.length then do
    let outcome ← execute A call
      (Slots.initial A function.params (varNamesOf function.body) args) function.body
    pure (outcome.returned.getD A.zero)
  else .fail

end Evaluation

namespace Program

/-- The functions that a program declares outside of all functions. -/
def declarations (program : Program) : List FunctionDeclaration :=
  program.body.filterMap Statement.declared?

/-- The function with this name. -/
def function? (program : Program) (name : String) : Option FunctionDeclaration :=
  program.declarations.find? fun function => function.name = name

/-- The result of a function when calls are nested less than `depth` deep. -/
def apply {α : Type} (A : Arithmetic α) (program : Program) :
    Nat → FunctionDeclaration → List α → Effect α
  | 0, _, _ => .fail
  | depth + 1, function, args =>
    function.apply A (fun name values => do
      let callee ← .ofOption (program.function? name)
      program.apply A depth callee values) args

/-- The function ends with this result, and with this log if that was empty before. -/
def Returns {α : Type} (A : Arithmetic α) (program : Program) (function : FunctionDeclaration)
    (args : List α) (value : α) (log : List String) : Prop :=
  ∃ depth, program.apply A depth function args [] = some (value, log)

end Program

end NumScript
