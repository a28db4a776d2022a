import NumScript.Operator
import NumScript.Text.Data

/-!
# Programs

A program is a list of statements, and a statement holds expressions and, for functions and
conditions, lists of statements again. The trees keep everything that a script says except its
parentheses and its layout.

Not every tree comes from a script: a comparison inside a sum or an assignment inside a call can be
built here and shown, and is refused only when the program is lowered.
-/

namespace NumScript

/-! ## 1. Trees -/

/-- An expression. -/
inductive Expression where
  /-- A number, as in `2.5`. -/
  | number (value : Binary64)
  /-- The value of a variable. -/
  | var (name : String)
  /-- An operator between two operands. -/
  | binary (op : BinaryOperator) (left right : Expression)
  /-- An operator before an operand. -/
  | unary (op : UnaryOperator) (operand : Expression)
  /-- A call of a function by its name. -/
  | call (callee : String) (arguments : List Expression)
  /-- A new value for a variable. -/
  | assign (target : String) (value : Expression)

/-- A function and the name under which it is exported. -/
structure ExportSpecifier where
  /-- The name of the function. -/
  localName : String
  /-- The name outside. -/
  exportedName : String
deriving DecidableEq

/-- A statement. -/
inductive Statement where
  /-- A function with its parameters and its body. -/
  | function (name : String) (params : List String) (body : List Statement)
  /-- A variable, with its first value if one is given. -/
  | variableDeclaration (name : String) (init : Option Expression)
  /-- An expression for its effect. -/
  | expression (value : Expression)
  /-- A choice between two blocks. -/
  | ifElse (test : Expression) (consequent alternate : List Statement)
  /-- The end of a function, with its result. -/
  | returnValue (argument : Expression)
  /-- A function that is exported under its own name. -/
  | exportFunction (name : String) (params : List String) (body : List Statement)
  /-- Exports of functions that stand elsewhere in the program. -/
  | exportSpecifiers (specifiers : List ExportSpecifier)

/-- A program: its statements in order. -/
structure Program where
  /-- The statements. -/
  body : List Statement

/-- A function as it is declared, exported or not. -/
structure FunctionDeclaration where
  /-- The name. -/
  name : String
  /-- The parameters in order. -/
  params : List String
  /-- The statements of the body. -/
  body : List Statement

/-- The function that a statement declares, if it declares one. -/
def Statement.declared? : Statement → Option FunctionDeclaration
  | .function name params body => some ⟨name, params, body⟩
  | .exportFunction name params body => some ⟨name, params, body⟩
  | _ => none

/-! ## 2. Programs as data -/

mutual
/-- The expression as data. -/
def Expression.data : Expression → Data
  | .number value => .choice "Number" (.number value)
  | .var name => .choice "Variable" (.text name)
  | .binary op left right =>
    .choiceRecord "BinaryOp"
      [.field "left" left.data, .field "op" (.word op.name), .field "right" right.data]
  | .unary op operand =>
    .choiceRecord "UnaryOp" [.field "op" (.word op.name), .field "operand" operand.data]
  | .call callee arguments =>
    .choiceRecord "Call"
      [.field "callee" (.text callee), .field "arguments" (.list (Expression.listData arguments))]
  | .assign target value =>
    .choiceRecord "Assign" [.field "target" (.text target), .field "value" value.data]

/-- The members of a list of expressions as data. -/
def Expression.listData : List Expression → List Data
  | [] => []
  | value :: rest => value.data :: Expression.listData rest
end

/-- The specifier as data. -/
def ExportSpecifier.data (specifier : ExportSpecifier) : Data :=
  .record "ExportSpecifier"
    [.field "local" (.text specifier.localName), .field "exported" (.text specifier.exportedName)]

/-- A block of statements that are already data. -/
def blockData (statements : List Data) : Data := .record "Block" [.field "body" (.list statements)]

/-- A function whose body is already data. -/
def functionData (name : String) (params : List String) (body : List Data) : Data :=
  .record "FunctionDeclaration"
    [.field "name" (.text name), .field "params" (.list (params.map .text)),
      .field "body" (blockData body)]

mutual
/-- The statement as data. -/
def Statement.data : Statement → Data
  | .function name params body =>
    .choice "Function" (functionData name params (Statement.listData body))
  | .variableDeclaration name init =>
    .choiceRecord "Variable"
      [.field "name" (.text name),
        .field "init" (match init with
          | none => .absent
          | some value => .present value.data)]
  | .expression value => .choice "Expression" value.data
  | .ifElse test consequent alternate =>
    .choiceRecord "If"
      [.field "test" test.data, .field "consequent" (blockData (Statement.listData consequent)),
        .field "alternate" (blockData (Statement.listData alternate))]
  | .returnValue argument => .choiceRecord "Return" [.field "argument" argument.data]
  | .exportFunction name params body =>
    .choice "Export" (.choice "Function" (functionData name params (Statement.listData body)))
  | .exportSpecifiers specifiers =>
    .choice "Export" (.choice "Specifiers" (.list (specifiers.map ExportSpecifier.data)))

/-- The members of a list of statements as data. -/
def Statement.listData : List Statement → List Data
  | [] => []
  | statement :: rest => statement.data :: Statement.listData rest
end

/-- The program as data. -/
def Program.data (program : Program) : Data :=
  .record "Program" [.field "body" (.list (Statement.listData program.body))]

end NumScript
