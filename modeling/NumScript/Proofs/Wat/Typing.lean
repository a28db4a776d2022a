import NumScript.Proofs.Semantics.Machine

/-!
# Valid modules

A body is typed by the types of the values on the stack before and after it (`BodyTyped`), the top
first; floats and integers are kept apart. The arms of a condition and the body of a block see
nothing of the stack around them and leave it as they found it. After a branch nothing is run, so a
branch may be followed by whatever stack the code after it asks for.

What the instructions refer to has to be there (`Context`): the functions of the module, the slots of
the function and the labels of the blocks around the instruction. A module is valid when its bodies
are typed and its names are not ambiguous (`Module.Valid`).
-/

namespace NumScript.Wat

/-! ## 1. Bodies -/

/-- The type of a value on the stack. -/
inductive ValueType where
  | float
  | i32
deriving DecidableEq

/-- What an instruction may refer to. -/
structure Context where
  /-- The number of parameters of a function, if it is there. -/
  arity? : String → Option Nat
  /-- The parameters, the locals and the result slot. -/
  slots : List String
  /-- The labels of the blocks around. -/
  labels : List String

/-- The context inside a block with a label. -/
def Context.inside (Γ : Context) (label : String) : Context :=
  { Γ with labels := label :: Γ.labels }

namespace FloatOperation

/-- The number of floats that an operation takes. -/
def operands : FloatOperation → Nat
  | .neg | .sqrt => 1
  | _ => 2

/-- The type of what an operation leaves. -/
def resultType : FloatOperation → ValueType
  | .eq | .ne | .lt | .gt | .le | .ge => .i32
  | _ => .float

end FloatOperation

/-- So many floats on top of a stack. -/
def floats (n : Nat) (stack : List ValueType) : List ValueType :=
  List.replicate n .float ++ stack

mutual
/-- The types on the stack before and after an instruction. -/
inductive InstructionTyped : Context → Instruction → List ValueType → List ValueType → Prop
  | const {Γ : Context} {stack : List ValueType} (value : Binary64) :
      InstructionTyped Γ (.const value) stack (.float :: stack)
  | i32Const {Γ : Context} {stack : List ValueType} (value : Int32) :
      InstructionTyped Γ (.i32Const value) stack (.i32 :: stack)
  | localGet {Γ : Context} {stack : List ValueType} {name : String} (known : name ∈ Γ.slots) :
      InstructionTyped Γ (.localGet name) stack (.float :: stack)
  | localSet {Γ : Context} {stack : List ValueType} {name : String} (known : name ∈ Γ.slots) :
      InstructionTyped Γ (.localSet name) (.float :: stack) stack
  | float {Γ : Context} {stack : List ValueType} (operation : FloatOperation) :
      InstructionTyped Γ (.float operation) (floats operation.operands stack)
        (operation.resultType :: stack)
  | log {Γ : Context} {stack : List ValueType} :
      InstructionTyped Γ (.call logFunction) (.i32 :: .i32 :: stack) stack
  | call {Γ : Context} {stack : List ValueType} {name : String} {arity : Nat}
      (notLog : name ≠ logFunction) (known : Γ.arity? name = some arity) :
      InstructionTyped Γ (.call name) (floats arity stack) (.float :: stack)
  | drop {Γ : Context} {stack : List ValueType} :
      InstructionTyped Γ .drop (.float :: stack) stack
  | ifElse {Γ : Context} {stack : List ValueType} {consequent alternate : List Instruction}
      (first : BodyTyped Γ consequent [] []) (second : BodyTyped Γ alternate [] []) :
      InstructionTyped Γ (.ifElse consequent alternate) (.i32 :: stack) stack
  | block {Γ : Context} {stack : List ValueType} {label : String} {body : List Instruction}
      (inner : BodyTyped (Γ.inside label) body [] []) :
      InstructionTyped Γ (.block label body) stack stack
  | br {Γ : Context} {stack after : List ValueType} {label : String} (known : label ∈ Γ.labels) :
      InstructionTyped Γ (.br label) stack after

/-- The types on the stack before and after a body. -/
inductive BodyTyped : Context → List Instruction → List ValueType → List ValueType → Prop
  | nil {Γ : Context} {stack : List ValueType} : BodyTyped Γ [] stack stack
  | cons {Γ : Context} {instruction : Instruction} {rest : List Instruction}
      {stack middle after : List ValueType} (first : InstructionTyped Γ instruction stack middle)
      (others : BodyTyped Γ rest middle after) : BodyTyped Γ (instruction :: rest) stack after
end

theorem InstructionTyped.single {Γ : Context} {instruction : Instruction}
    {stack after : List ValueType} (h : InstructionTyped Γ instruction stack after) :
    BodyTyped Γ [instruction] stack after := .cons h .nil

theorem BodyTyped.append {Γ : Context} : ∀ {first second : List Instruction}
    {stack middle after : List ValueType}, BodyTyped Γ first stack middle →
    BodyTyped Γ second middle after → BodyTyped Γ (first ++ second) stack after
  | [], _, _, _, _, .nil, h => h
  | _ :: _, _, _, _, _, .cons one rest, h => .cons one (rest.append h)

/-! ## 2. Modules -/

namespace Module

/-- What the body of a function of a module may refer to. -/
def context (module : Module) (function : Function) : Context where
  arity? name := (module.function? name).map fun callee => callee.params.length
  slots := function.params ++ function.locals ++ [resultSlot]
  labels := []

/-- A module that an assembler accepts. -/
structure Valid (module : Module) : Prop where
  /-- Each body leaves exactly one float on a stack that was empty. -/
  bodies : ∀ function ∈ module.functions,
    BodyTyped (module.context function) function.body [] [.float]
  /-- The slots of a function have different names. -/
  slots : ∀ function ∈ module.functions, (module.context function).slots.Nodup
  /-- The functions have different names. -/
  functions : (module.functions.map Function.name).Nodup
  /-- No function has the name of the imported one. -/
  log : ∀ function ∈ module.functions, function.name ≠ logFunction
  /-- What is exported is a function of the module. -/
  exports : ∀ item ∈ module.exports, ∃ function ∈ module.functions, function.name = item.function
  /-- The exports have different names. -/
  exportNames : (module.exports.map Export.name).Nodup

end Module

end NumScript.Wat
