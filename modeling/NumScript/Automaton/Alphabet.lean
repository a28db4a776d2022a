import NumScript.Program
import NumScript.Token

/-!
# The symbols of the automaton

The parser is an automaton with a stack. On the stack lie SYMBOLS: tokens that were taken from the
input and nodes that were built from symbols before them. The automaton sees of a symbol only its
KIND; tokens and nodes share one alphabet of kinds, in which a name or a number is the same letter
whether it is a token or was put in parentheses and is a node.

An expression node is COMPLETE when no operator can join it any more.
-/

namespace NumScript.Automaton

/-! ## 1. Kinds -/

/-- A letter of the alphabet of the automaton. -/
inductive Kind where
  | keyword (word : Keyword)
  | operator (operatorClass : OperatorClass)
  | mark (sign : Mark)
  | identifier
  | numericLiteral
  | unaryExpression
  | binaryExpression
  | callExpression
  | assignmentExpression
  | fullExpression
  | expressionStatement
  | variableDeclaration
  | functionDeclaration
  | ifStatement
  | returnStatement
  | exportDeclaration
  | block
  | params
  | exportSpecifier
  | exportSpecifiers
deriving DecidableEq

namespace Kind

/-- The kinds that only nodes have. -/
def allNodeOnly : List Kind :=
  [.unaryExpression, .binaryExpression, .callExpression, .assignmentExpression, .fullExpression,
    .expressionStatement, .variableDeclaration, .functionDeclaration, .ifStatement, .returnStatement,
    .exportDeclaration, .block, .params, .exportSpecifier, .exportSpecifiers]

/-- The kinds that a token can have. -/
def allToken : List Kind :=
  [.keyword .function, .keyword .varKeyword, .keyword .ifKeyword, .keyword .elseKeyword,
    .keyword .returnKeyword, .keyword .exportKeyword, .keyword .asKeyword, .operator .additive,
    .operator .multiplicative, .operator .relational, .mark .assign, .mark .leftParen,
    .mark .rightParen, .mark .leftBrace, .mark .rightBrace, .mark .semicolon, .mark .comma,
    .identifier, .numericLiteral]

/-- All kinds. -/
def all : List Kind := allToken ++ allNodeOnly

theorem mem_all (kind : Kind) : kind ∈ all := by
  cases kind with
  | keyword word => cases word <;> decide
  | operator operatorClass => cases operatorClass <;> decide
  | mark sign => cases sign <;> decide
  | _ => decide

/-- Whether a token can have this kind. -/
def isToken (kind : Kind) : Bool := allToken.contains kind

/-- Whether a node can have this kind. -/
def isNode (kind : Kind) : Bool :=
  allNodeOnly.contains kind || kind == .identifier || kind == .numericLiteral

/-- The name of the kind. -/
def name : Kind → String
  | .keyword word => word.name
  | .operator operatorClass => operatorClass.name
  | .mark sign => sign.name
  | .identifier => "Identifier"
  | .numericLiteral => "NumericLiteral"
  | .unaryExpression => "UnaryExpression"
  | .binaryExpression => "BinaryExpression"
  | .callExpression => "CallExpression"
  | .assignmentExpression => "AssignmentExpression"
  | .fullExpression => "FullExpression"
  | .expressionStatement => "ExpressionStatement"
  | .variableDeclaration => "VariableDeclaration"
  | .functionDeclaration => "FunctionDeclaration"
  | .ifStatement => "IfStatement"
  | .returnStatement => "ReturnStatement"
  | .exportDeclaration => "ExportNamedDeclaration"
  | .block => "BlockStatement"
  | .params => "Params"
  | .exportSpecifier => "ExportSpecifier"
  | .exportSpecifiers => "ExportSpecifiers"

/-- The kind as a message names it: keywords and marks by their spelling, between single quotation
    marks. -/
def shown : Kind → String
  | .keyword word => "'" ++ word.spelling ++ "'"
  | .mark sign => "'" ++ sign.spelling ++ "'"
  | kind => kind.name

end Kind

/-- The kind of a token. -/
def tokenKind : Token → Kind
  | .keyword word => .keyword word
  | .operator op => .operator op.operatorClass
  | .mark sign => .mark sign
  | .identifier _ => .identifier
  | .number _ => .numericLiteral

/-! ## 2. Nodes -/

/-- What a reduction builds. -/
inductive Node where
  /-- An expression, and whether it is complete. -/
  | expression (value : Expression) (complete : Bool)
  /-- A statement. -/
  | statement (value : Statement)
  /-- The statements between two braces. -/
  | block (body : List Statement)
  /-- The parameters of a function. -/
  | params (names : List String)
  /-- One export. -/
  | exportSpecifier (specifier : ExportSpecifier)
  /-- The exports between two braces. -/
  | exportSpecifiers (specifiers : List ExportSpecifier)

/-- The kind of an expression that is not complete. -/
def expressionKind : Expression → Kind
  | .number _ => .numericLiteral
  | .var _ => .identifier
  | .binary .. => .binaryExpression
  | .unary .. => .unaryExpression
  | .call .. => .callExpression
  | .assign .. => .assignmentExpression

/-- The kind of a statement. -/
def statementKind : Statement → Kind
  | .function .. => .functionDeclaration
  | .variableDeclaration .. => .variableDeclaration
  | .expression _ => .expressionStatement
  | .ifElse .. => .ifStatement
  | .returnValue _ => .returnStatement
  | .exportFunction .. => .exportDeclaration
  | .exportSpecifiers _ => .exportDeclaration

/-- The kind of a node. -/
def Node.kind : Node → Kind
  | .expression _ true => .fullExpression
  | .expression value false => expressionKind value
  | .statement value => statementKind value
  | .block _ => .block
  | .params _ => .params
  | .exportSpecifier _ => .exportSpecifier
  | .exportSpecifiers _ => .exportSpecifiers

/-! ## 3. Symbols -/

/-- A token or a node. -/
inductive Symbol where
  | token (value : Token)
  | node (value : Node)

namespace Symbol

/-- The kind of a symbol. -/
def kind : Symbol → Kind
  | .token value => tokenKind value
  | .node value => value.kind

/-- Whether a symbol is a token of this kind. -/
def isTokenOf (wanted : Kind) : Symbol → Bool
  | .token value => tokenKind value == wanted
  | .node _ => false

/-- Whether a symbol belongs to a sum that is not complete yet: an operand or an additive operator. -/
def isChainElement : Symbol → Bool
  | .token (.identifier _) => true
  | .token (.number _) => true
  | .token (.operator op) => op.operatorClass == .additive
  | .node (.expression _ complete) => !complete
  | _ => false

/-- The expression that a symbol stands for, if it stands for one. -/
def expression? : Symbol → Option Expression
  | .token (.identifier name) => some (.var name)
  | .token (.number value) => some (.number value)
  | .node (.expression value _) => some value
  | _ => none

/-- The name that a symbol stands for, if it stands for one. -/
def name? : Symbol → Option String
  | .token (.identifier name) => some name
  | .node (.expression (.var name) _) => some name
  | _ => none

end Symbol

end NumScript.Automaton
