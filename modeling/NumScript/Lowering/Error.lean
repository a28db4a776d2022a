import NumScript.Program

/-!
# Why a program cannot be lowered

The causes for which a program is refused, and the message of each.
-/

namespace NumScript

/-- Why a program is not lowered. -/
inductive LowerError where
  /-- A name that the library keeps for itself. -/
  | reservedName (name : String)
  /-- Two functions with one name. -/
  | duplicateFunction (name : String)
  /-- Two exports with one name. -/
  | duplicateExport (name : String)
  /-- An export of a function that is not there. -/
  | unknownExport (name : String)
  /-- A statement outside of all functions that is neither a function nor an export. -/
  | notAtModuleLevel (statement : Statement)
  /-- Two parameters with one name. -/
  | duplicateParameter (param function : String)
  /-- A function inside a function. -/
  | nestedFunction (name : String)
  /-- An export inside a function. -/
  | nestedExport
  /-- A comparison that is not the test of a condition. -/
  | comparisonAsValue (op : BinaryOperator)
  /-- An assignment that is not a statement. -/
  | assignmentAsValue (target : String)
  /-- A fault that is not a statement. -/
  | faultAsValue (name : String)
  /-- A fault with arguments. -/
  | faultArguments (name : String)
  /-- A call of a function that is not there. -/
  | unknownFunction (name : String)
  /-- A call with the wrong number of arguments. -/
  | wrongArity (callee : String) (expected given : Nat)
  /-- A variable that is not there. -/
  | unknownVariable (name : String)

/-- The message of an error. -/
def LowerError.message : LowerError → String
  | .reservedName name => "Reserved name: " ++ name
  | .duplicateFunction name => "Duplicate function: " ++ name
  | .duplicateExport name => "Duplicate export: " ++ name
  | .unknownExport name => "Cannot export unknown function: " ++ name
  | .notAtModuleLevel statement =>
    "Only functions and exports are allowed at module level, found: " ++ statement.data.inspect
  | .duplicateParameter param function =>
    "Duplicate parameter " ++ param ++ " in function " ++ function
  | .nestedFunction name => "Nested function declarations are not supported: " ++ name
  | .nestedExport => "Exports are only allowed at module level"
  | .comparisonAsValue op =>
    "Comparison '" ++ op.symbol ++ "' can only be used as an if condition"
  | .assignmentAsValue target => "Assignment to " ++ target ++ " is only allowed as a statement"
  | .faultAsValue name => name ++ "() has no value"
  | .faultArguments name => name ++ "() takes no arguments"
  | .unknownFunction name => "Unknown function: " ++ name
  | .wrongArity callee expected given =>
    "Function " ++ callee ++ " expects " ++ toString expected ++ " arguments but got " ++
      toString given
  | .unknownVariable name => "Unknown variable: " ++ name

end NumScript
