import NumScript.Number.Binary64

/-!
# WebAssembly modules

The part of WebAssembly that a lowered program uses: functions over one float type, a block around
their body, conditions, and one imported function to write a message. All variables of a function are
its parameters and locals; one more local, the RESULT SLOT, holds what the function returns.
-/

namespace NumScript.Wat

/-! ## 1. Names with a meaning -/

/-- The local that holds the result of a function. -/
def resultSlot : String := "__return__"

/-- The imported function that writes a message. -/
def logFunction : String := "log"

/-- The label of the block around a body that is left early. -/
def exitLabel : String := "__exit__"

/-- The message in memory. -/
def faultMessage : String := "ERROR"

/-! ## 2. Modules -/

/-- The width of all floats of a module. -/
inductive FloatWidth where
  | f32
  | f64
deriving DecidableEq

/-- The name of the float type. -/
def FloatWidth.typeName : FloatWidth → String
  | .f32 => "f32"
  | .f64 => "f64"

/-- An operation on floats; the last six give an integer, 0 or 1. -/
inductive FloatOperation where
  | add
  | sub
  | mul
  | div
  | neg
  | sqrt
  | eq
  | ne
  | lt
  | gt
  | le
  | ge
deriving DecidableEq

namespace FloatOperation

/-- All operations. -/
def all : List FloatOperation :=
  [.add, .sub, .mul, .div, .neg, .sqrt, .eq, .ne, .lt, .gt, .le, .ge]

theorem mem_all (operation : FloatOperation) : operation ∈ all := by cases operation <;> decide

/-- The name of the instruction, without the type. -/
def mnemonic : FloatOperation → String
  | .add => "add"
  | .sub => "sub"
  | .mul => "mul"
  | .div => "div"
  | .neg => "neg"
  | .sqrt => "sqrt"
  | .eq => "eq"
  | .ne => "ne"
  | .lt => "lt"
  | .gt => "gt"
  | .le => "le"
  | .ge => "ge"

end FloatOperation

/-- An instruction of the stack machine. -/
inductive Instruction where
  /-- Pushes a float. -/
  | const (value : Binary64)
  /-- Pushes an integer. -/
  | i32Const (value : Int32)
  /-- Pushes the value of a local. -/
  | localGet (name : String)
  /-- Pops the new value of a local. -/
  | localSet (name : String)
  /-- Pops the operands of an operation and pushes its result. -/
  | float (operation : FloatOperation)
  /-- Pops the arguments of a function and pushes its result. -/
  | call (name : String)
  /-- Pops a value. -/
  | drop
  /-- Pops an integer and runs the first body, or the second one if it is zero. -/
  | ifElse (consequent alternate : List Instruction)
  /-- Runs a body that a branch to the label leaves. -/
  | block (label : String) (body : List Instruction)
  /-- Leaves the block with this label. -/
  | br (label : String)

/-- A function. -/
structure Function where
  /-- The name. -/
  name : String
  /-- The parameters in order. -/
  params : List String
  /-- The locals, the result slot apart. -/
  locals : List String
  /-- The instructions. -/
  body : List Instruction

/-- A function that can be called from outside. -/
structure Export where
  /-- The name outside. -/
  name : String
  /-- The name of the function. -/
  function : String
deriving DecidableEq

/-- A module. -/
structure Module where
  /-- The width of its floats. -/
  width : FloatWidth
  /-- Its functions in order. -/
  functions : List Function
  /-- Its exports in order. -/
  exports : List Export

end NumScript.Wat
