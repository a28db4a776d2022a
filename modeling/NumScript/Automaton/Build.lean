import NumScript.Automaton.Config

/-!
# Building nodes

Each reduction takes symbols off the stack, the last one first, and builds one node from them; some
also take the token that closes the phrase, and some begin with a node that was just built
(`incoming`). What a reduction does not find where it should be is an error, although the table
leads to a reduction only where nearly all of this cannot happen.
-/

namespace NumScript.Automaton

open Move

/-! ## 1. What comes in -/

/-- The expression of the incoming node. -/
def incomingExpression : Option Node → Move Expression
  | none => fail (·.unexpectedNext)
  | some (.expression value _) => pure value
  | some node => fail (·.unexpected (.node node))

/-- The statements of the incoming node. -/
def incomingBlock : Option Node → Move (List Statement)
  | none => fail (·.unexpectedNext)
  | some (.block body) => pure body
  | some node => fail (·.unexpected (.node node))

/-- The export that the incoming node makes. -/
def incomingExport : Option Node → Move Statement
  | none => fail (·.unexpectedNext)
  | some (.statement (.function name params body)) => pure (.exportFunction name params body)
  | some (.exportSpecifiers specifiers) => pure (.exportSpecifiers specifiers)
  | some node => fail (·.unexpected (.node node))

/-! ## 2. What lists are read as -/

/-- A symbol between the parentheses of a call. -/
def readArgument (symbol : Symbol) : Option (Option Expression) :=
  if symbol.isTokenOf (.mark .comma) then some none else symbol.expression?.map some

/-- A symbol between the parentheses of a function. -/
def readParam : Symbol → Option (Option String)
  | .token (.identifier name) => some (some name)
  | .token (.mark .comma) => some none
  | _ => none

/-- A symbol between braces of a block. -/
def readStatement : Symbol → Option (Option Statement)
  | .node (.statement value) => some (some value)
  | _ => none

/-- A symbol between the braces of an export. -/
def readSpecifier : Symbol → Option (Option ExportSpecifier)
  | .node (.exportSpecifier specifier) => some (some specifier)
  | .token (.mark .comma) => some none
  | _ => none

/-! ## 3. Expressions -/

/-- The expression of a symbol that has to stand for one. -/
def asExpression (symbol : Symbol) : Move Expression :=
  match symbol.expression? with
  | some value => pure value
  | none => fail (·.unexpected symbol)

/-- The operator of a symbol that has to be an additive one. -/
def asAdditive (symbol : Symbol) : Move BinaryOperator :=
  match symbol with
  | .token (.operator op) =>
    if op.operatorClass = .additive then pure op else fail (·.unexpected symbol)
  | _ => fail (·.unexpected symbol)

/-- A sum, joined from left to right: `left` is what was joined so far. -/
def joinChain (left : Expression) : List Symbol → Move Expression
  | [] => pure left
  | [operator] => do
    let _ ← asAdditive operator
    fail (·.unexpectedNext)
  | operator :: operand :: rest => do
    let op ← asAdditive operator
    let right ← asExpression operand
    joinChain (.binary op left right) rest

/-- The sum on the top of the stack, from its first operand to its last. -/
def reduceFullExpression : Move Node := do
  match ← popChain with
  | [] => fail (·.unexpectedNext)
  | first :: rest =>
    let left ← asExpression first
    let value ← joinChain left rest
    pure (.expression value true)

/-- A product of two operands, built as soon as the symbol after it is known. -/
def reduceTerm : Move Node := do
  let right ← popExpression
  let op ← popOperator .multiplicative
  let left ← popExpression
  pure (.expression (.binary op left right) false)

/-- An expression in parentheses becomes an operand. -/
def reduceParenthesized (incoming : Option Node) : Move Node := do
  let value ← incomingExpression incoming
  let _ ← expect (.mark .rightParen)
  popToken (.mark .leftParen)
  pure (.expression value false)

/-- A sign before an operand. -/
def reduceUnaryExpression : Move Node := do
  let operand ← popExpression
  let op ← popOperator .additive
  pure (.expression (.unary (if op = .subtract then .negate else .plus) operand) false)

/-- A call; a comma after the last argument is allowed. -/
def reduceCallExpression : Move Node := do
  let _ ← expect (.mark .rightParen)
  let symbols ← popUntil (.mark .leftParen) (.mark .rightParen)
  let arguments ← readAll readArgument symbols
  let callee ← popName
  pure (.expression (.call callee arguments) false)

/-- An assignment, when its right side is complete. -/
def reduceAssignmentExpression (incoming : Option Node) : Move Node := do
  let value ← incomingExpression incoming
  popToken (.mark .assign)
  let target ← popName
  pure (.expression (.assign target value) false)

/-- The one comparison in the parentheses of a condition. -/
def reduceTest : Move Node := do
  let _ ← expect (.mark .rightParen)
  let right ← popExpression
  let op ← popOperator .relational
  let left ← popExpression
  popToken (.mark .leftParen)
  pure (.expression (.binary op left right) false)

/-! ## 4. Statements -/

/-- An expression and its semicolon. -/
def reduceExpressionStatement : Move Node := do
  let _ ← expect (.mark .semicolon)
  let value ← popExpression
  pure (.statement (.expression value))

/-- A variable and its semicolon; a first value comes in as a node. -/
def reduceVariableDeclaration (incoming : Option Node) : Move Node :=
  match incoming with
  | none => do
    let _ ← expect (.mark .semicolon)
    let name ← popName
    popToken (.keyword .varKeyword)
    pure (.statement (.variableDeclaration name none))
  | some node => do
    let value ← incomingExpression (some node)
    let _ ← expect (.mark .semicolon)
    popToken (.mark .assign)
    let name ← popName
    popToken (.keyword .varKeyword)
    pure (.statement (.variableDeclaration name (some value)))

/-- The parameters of a function; a comma after the last one is allowed. -/
def reduceParams : Move Node := do
  let _ ← expect (.mark .rightParen)
  let symbols ← popUntil (.mark .leftParen) (.mark .rightParen)
  let names ← readAll readParam symbols
  pure (.params names)

/-- The parameters that a symbol holds. -/
def params? : Symbol → Option (List String)
  | .node (.params names) => some names
  | _ => none

/-- The statements that a symbol holds. -/
def block? : Symbol → Option (List Statement)
  | .node (.block body) => some body
  | _ => none

/-- A function, when its body is there. -/
def reduceFunctionDeclaration (incoming : Option Node) : Move Node := do
  let body ← incomingBlock incoming
  let params ← popAs params?
  let name ← popName
  popToken (.keyword .function)
  pure (.statement (.function name params body))

/-- A condition, when its second block is there. -/
def reduceIfStatement (incoming : Option Node) : Move Node := do
  let alternate ← incomingBlock incoming
  popToken (.keyword .elseKeyword)
  let consequent ← popAs block?
  let test ← popExpression
  popToken (.keyword .ifKeyword)
  pure (.statement (.ifElse test consequent alternate))

/-- The end of a function and its semicolon. -/
def reduceReturnStatement (incoming : Option Node) : Move Node := do
  let argument ← incomingExpression incoming
  let _ ← expect (.mark .semicolon)
  popToken (.keyword .returnKeyword)
  pure (.statement (.returnValue argument))

/-- The statements between two braces. -/
def reduceBlock : Move Node := do
  let _ ← expect (.mark .rightBrace)
  let symbols ← popUntil (.mark .leftBrace) (.mark .rightBrace)
  let body ← readAll readStatement symbols
  pure (.block body)

/-! ## 5. Exports -/

/-- Whether a token of this kind lies on the top of the stack. -/
def topIsToken (kind : Kind) : Move Bool := fun config =>
  match config.stack with
  | [] => .ok (false, config)
  | entry :: _ => .ok (entry.symbol.isTokenOf kind, config)

/-- A name, or two names with `as` between them; what follows is not taken. -/
def reduceExportSpecifier : Move Node := do
  let exported ← popName
  if ← topIsToken (.keyword .asKeyword) then
    let _ ← pop
    let localName ← popName
    pure (.exportSpecifier ⟨localName, exported⟩)
  else
    pure (.exportSpecifier ⟨exported, exported⟩)

/-- The exports between two braces, and the semicolon after them. -/
def reduceExportSpecifiers : Move Node := do
  let _ ← expect (.mark .rightBrace)
  let _ ← expect (.mark .semicolon)
  let symbols ← popUntil (.mark .leftBrace) (.mark .rightBrace)
  let specifiers ← readAll readSpecifier symbols
  pure (.exportSpecifiers specifiers)

/-- An export, when what is exported is there. -/
def reduceExportDeclaration (incoming : Option Node) : Move Node := do
  let declaration ← incomingExport incoming
  popToken (.keyword .exportKeyword)
  pure (.statement declaration)

/-! ## 6. All reductions -/

/-- What a reduction builds, given the node that came in, if one did. -/
def Reduction.build : Reduction → Option Node → Move Node
  | .term, _ => reduceTerm
  | .fullExpression, _ => reduceFullExpression
  | .parenthesized, incoming => reduceParenthesized incoming
  | .unaryExpression, _ => reduceUnaryExpression
  | .callExpression, _ => reduceCallExpression
  | .assignmentExpression, incoming => reduceAssignmentExpression incoming
  | .expressionStatement, _ => reduceExpressionStatement
  | .variableDeclaration, incoming => reduceVariableDeclaration incoming
  | .params, _ => reduceParams
  | .functionDeclaration, incoming => reduceFunctionDeclaration incoming
  | .test, _ => reduceTest
  | .ifStatement, incoming => reduceIfStatement incoming
  | .returnStatement, incoming => reduceReturnStatement incoming
  | .block, _ => reduceBlock
  | .exportSpecifier, _ => reduceExportSpecifier
  | .exportSpecifiers, _ => reduceExportSpecifiers
  | .exportDeclaration, incoming => reduceExportDeclaration incoming

end NumScript.Automaton
