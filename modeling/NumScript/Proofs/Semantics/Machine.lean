import NumScript.Wat.Module
import NumScript.Proofs.Semantics.Value

/-!
# The stack machine

A module is run on a machine that keeps, for each call of a function, a stack of values and the
locals of the function (`Frame`). A body is run instruction by instruction. It either comes to its
end or branches, and a branch leaves every body up to the block with its label (`Exit`).

Whatever the machine does not expect makes it fail: a value of the other type or no value at all on
the stack, a local or a function that is not there, a branch out of a function, a function that does
not leave exactly one float. As for scripts, the meaning of calls is given to `runBody`, and
`Module.invoke` bounds how deep they are nested.
-/

namespace NumScript.Wat

/-! ## 1. Values and frames -/

/-- A value on the stack. -/
inductive Value (α : Type) where
  | float (value : α)
  | int (value : Int32)

/-- What one call of a function works on. -/
structure Frame (α : Type) where
  /-- The values, the top first. -/
  stack : List (Value α)
  /-- The parameters, the locals and the result slot. -/
  locals : Slots α

/-- How a body is left. -/
inductive Exit (α : Type) where
  /-- At its end. -/
  | next (frame : Frame α)
  /-- By a branch to this label. -/
  | branch (label : String) (frame : Frame α)

/-- A branch to a label ends at the block with the label. -/
def Exit.leave {α : Type} (label : String) : Exit α → Exit α
  | .next frame => .next frame
  | .branch target frame => if target = label then .next frame else .branch target frame

/-- What follows is run only if no branch leaves it out. -/
def Exit.andThen {α : Type} (next : Frame α → Effect (Exit α)) : Exit α → Effect (Exit α)
  | .next frame => next frame
  | .branch label frame => pure (.branch label frame)

section Stack

variable {α : Type}

/-- A float on the top of a stack, and the stack under it. -/
def popFloat : List (Value α) → Option (α × List (Value α))
  | .float value :: rest => some (value, rest)
  | _ => none

/-- An integer on the top of a stack, and the stack under it. -/
def popInt : List (Value α) → Option (Int32 × List (Value α))
  | .int value :: rest => some (value, rest)
  | _ => none

/-- So many floats on the top of a stack, the lowest first, and the stack under them. -/
def popFloats : Nat → List (Value α) → Option (List α × List (Value α))
  | 0, stack => some ([], stack)
  | n + 1, stack => do
    let (last, stack) ← popFloat stack
    let (values, stack) ← popFloats n stack
    pure (values ++ [last], stack)

/-- A truth value as an integer. -/
def truth (holds : Bool) : Value α := .int (if holds then 1 else 0)

/-- What an operation leaves on the stack. -/
def operate (A : Arithmetic α) : FloatOperation → List (Value α) → Option (List (Value α))
  | .neg, .float x :: rest => some (.float (A.neg x) :: rest)
  | .sqrt, .float x :: rest => some (.float (A.sqrt x) :: rest)
  | .add, .float y :: .float x :: rest => some (.float (A.add x y) :: rest)
  | .sub, .float y :: .float x :: rest => some (.float (A.sub x y) :: rest)
  | .mul, .float y :: .float x :: rest => some (.float (A.mul x y) :: rest)
  | .div, .float y :: .float x :: rest => some (.float (A.div x y) :: rest)
  | .eq, .float y :: .float x :: rest => some (truth (A.eq x y) :: rest)
  | .ne, .float y :: .float x :: rest => some (truth (A.ne x y) :: rest)
  | .lt, .float y :: .float x :: rest => some (truth (A.lt x y) :: rest)
  | .gt, .float y :: .float x :: rest => some (truth (A.gt x y) :: rest)
  | .le, .float y :: .float x :: rest => some (truth (A.le x y) :: rest)
  | .ge, .float y :: .float x :: rest => some (truth (A.ge x y) :: rest)
  | _, _ => none

end Stack

/-- The part of the message in memory that begins at an offset and has a length, both in bytes. All
    characters of the message are one byte long. -/
def messageAt (offset length : Int32) : Option String :=
  if 0 ≤ offset.toInt ∧ 0 ≤ length.toInt ∧
      offset.toInt + length.toInt ≤ (faultMessage.length : Int) then
    some (String.ofList ((faultMessage.toList.drop offset.toInt.toNat).take length.toInt.toNat))
  else none

/-! ## 2. Instructions -/

section Run

variable {α : Type} (A : Arithmetic α) (function? : String → Option Function)
  (invoke : Function → List α → Effect α)

mutual
/-- Runs one instruction. -/
def runInstruction : Instruction → Frame α → Effect (Exit α)
  | .const value, frame => pure (.next ⟨.float (A.const value) :: frame.stack, frame.locals⟩)
  | .i32Const value, frame => pure (.next ⟨.int value :: frame.stack, frame.locals⟩)
  | .localGet name, frame => do
    let value ← .ofOption (frame.locals name)
    pure (.next ⟨.float value :: frame.stack, frame.locals⟩)
  | .localSet name, frame => do
    let (value, stack) ← .ofOption (popFloat frame.stack)
    let locals ← .ofOption (frame.locals.assign name value)
    pure (.next ⟨stack, locals⟩)
  | .float operation, frame => do
    let stack ← .ofOption (operate A operation frame.stack)
    pure (.next ⟨stack, frame.locals⟩)
  | .call name, frame =>
    if name = logFunction then do
      let (length, stack) ← .ofOption (popInt frame.stack)
      let (offset, stack) ← .ofOption (popInt stack)
      let message ← .ofOption (messageAt offset length)
      Effect.say message
      pure (.next ⟨stack, frame.locals⟩)
    else do
      let callee ← .ofOption (function? name)
      let (args, stack) ← .ofOption (popFloats callee.params.length frame.stack)
      let result ← invoke callee args
      pure (.next ⟨.float result :: stack, frame.locals⟩)
  | .drop, frame =>
    match frame.stack with
    | [] => .fail
    | _ :: stack => pure (.next ⟨stack, frame.locals⟩)
  | .ifElse consequent alternate, frame => do
    let (test, stack) ← .ofOption (popInt frame.stack)
    if test ≠ 0 then runBody consequent ⟨stack, frame.locals⟩
    else runBody alternate ⟨stack, frame.locals⟩
  | .block label body, frame => do
    let exit ← runBody body frame
    pure (exit.leave label)
  | .br label, frame => pure (.branch label frame)

/-- Runs a body; a branch leaves out the rest of it. -/
def runBody : List Instruction → Frame α → Effect (Exit α)
  | [], frame => pure (.next frame)
  | instruction :: rest, frame => do
    let exit ← runInstruction instruction frame
    exit.andThen fun frame => runBody rest frame
end

variable {A function? invoke}

theorem runBody_cons (instruction : Instruction) (rest : List Instruction) (frame : Frame α) :
    runBody A function? invoke (instruction :: rest) frame =
      (runInstruction A function? invoke instruction frame >>=
        Exit.andThen (runBody A function? invoke rest)) := by
  rw [runBody]

/-- A body after another one is run only if no branch leaves it out. -/
theorem runBody_append : ∀ (first second : List Instruction) (frame : Frame α),
    runBody A function? invoke (first ++ second) frame =
      (runBody A function? invoke first frame >>= Exit.andThen (runBody A function? invoke second))
  | [], second, frame => by
    rw [runBody, pure_bind]
    rfl
  | instruction :: rest, second, frame => by
    rw [List.cons_append, runBody_cons, runBody_cons, bind_assoc]
    refine bind_congr fun exit => ?_
    cases exit with
    | next frame => exact runBody_append rest second frame
    | branch label frame => rw [Exit.andThen, Exit.andThen, pure_bind, Exit.andThen]

/-- A condition is run as the body that its test chooses. -/
theorem runBody_ifElse (consequent alternate rest : List Instruction) (holds : Bool)
    (stack : List (Value α)) (locals : Slots α) :
    runBody A function? invoke (.ifElse consequent alternate :: rest) ⟨truth holds :: stack, locals⟩ =
      runBody A function? invoke ((if holds then consequent else alternate) ++ rest)
        ⟨stack, locals⟩ := by
  rw [runBody_cons, runBody_append, runInstruction]
  cases holds <;> rfl

/-- As many floats as were pushed can be taken, and they are the same. -/
theorem popFloats_reverse : ∀ (values : List α) (stack : List (Value α)),
    popFloats values.length (values.map Value.float ++ stack) = some (values.reverse, stack)
  | [], _ => rfl
  | value :: rest, stack => by
    show (popFloats rest.length (rest.map Value.float ++ stack)).bind _ = _
    rw [popFloats_reverse rest stack, List.reverse_cons]
    rfl

variable (A function? invoke)

/-! ## 3. Functions -/

/-- The locals with which a function begins: the parameters hold the arguments, the locals and the
    result slot hold zero. -/
def Function.start (function : Function) (args : List α) : Slots α :=
  ((Slots.empty.insertAll (function.params.zip args)).insertAll
    (function.locals.map fun name => (name, A.zero))).insert resultSlot A.zero

/-- Runs a function on its arguments. -/
def Function.apply (function : Function) (args : List α) : Effect α :=
  if args.length = function.params.length then do
    match ← runBody A function? invoke function.body ⟨[], function.start A args⟩ with
    | .next ⟨[.float value], _⟩ => pure value
    | _ => .fail
  else .fail

end Run

namespace Module

/-- The function with this name. -/
def function? (module : Module) (name : String) : Option Function :=
  module.functions.find? fun function => function.name = name

/-- The result of a function when calls are nested less than `depth` deep. -/
def invoke {α : Type} (A : Arithmetic α) (module : Module) : Nat → Function → List α → Effect α
  | 0, _, _ => .fail
  | depth + 1, function, args => function.apply A module.function? (module.invoke A depth) args

/-- The function with this name ends with this result, and with this log if that was empty before. -/
def Returns {α : Type} (A : Arithmetic α) (module : Module) (name : String) (args : List α)
    (value : α) (log : List String) : Prop :=
  ∃ function depth, module.function? name = some function ∧
    module.invoke A depth function args [] = some (value, log)

end Module

end NumScript.Wat
