/-!
# Operators

The operators of the script language. How tightly a binary operator binds, and where it may stand,
depends only on its class: multiplicative before additive, and relational only in the test of an
`if`.
-/

namespace NumScript

/-! ## 1. Binary operators -/

/-- An operator between two operands. -/
inductive BinaryOperator where
  | add
  | subtract
  | multiply
  | divide
  | less
  | greater
  | lessEqual
  | greaterEqual
  | equal
  | notEqual
deriving DecidableEq

/-- What decides how a binary operator binds. -/
inductive OperatorClass where
  /-- `+` and `-`. -/
  | additive
  /-- `*` and `/`. -/
  | multiplicative
  /-- The six comparisons. -/
  | relational
deriving DecidableEq

namespace BinaryOperator

/-- All binary operators. -/
def all : List BinaryOperator :=
  [.add, .subtract, .multiply, .divide, .less, .greater, .lessEqual, .greaterEqual, .equal, .notEqual]

/-- The class of an operator. -/
def operatorClass : BinaryOperator → OperatorClass
  | .add | .subtract => .additive
  | .multiply | .divide => .multiplicative
  | .less | .greater | .lessEqual | .greaterEqual | .equal | .notEqual => .relational

/-- Whether an operator is a comparison. -/
def isRelational (op : BinaryOperator) : Bool := op.operatorClass = .relational

/-- The operator as it is written in a script. -/
def symbol : BinaryOperator → String
  | .add => "+"
  | .subtract => "-"
  | .multiply => "*"
  | .divide => "/"
  | .less => "<"
  | .greater => ">"
  | .lessEqual => "<="
  | .greaterEqual => ">="
  | .equal => "=="
  | .notEqual => "!="

/-- The name of the operator. -/
def name : BinaryOperator → String
  | .add => "Add"
  | .subtract => "Subtract"
  | .multiply => "Multiply"
  | .divide => "Divide"
  | .less => "Less"
  | .greater => "Greater"
  | .lessEqual => "LessEqual"
  | .greaterEqual => "GreaterEqual"
  | .equal => "Equal"
  | .notEqual => "NotEqual"

theorem mem_all (op : BinaryOperator) : op ∈ all := by cases op <;> decide

end BinaryOperator

/-! ## 2. Unary operators -/

/-- An operator before one operand. -/
inductive UnaryOperator where
  | plus
  | negate
deriving DecidableEq

namespace UnaryOperator

/-- The name of the operator. -/
def name : UnaryOperator → String
  | .plus => "Plus"
  | .negate => "Negate"

end UnaryOperator

end NumScript
