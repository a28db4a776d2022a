import NumScript.Operator
import NumScript.Text.Data

/-!
# Tokens

The words of a script: keywords, operators, marks, names and numbers. A binary operator is one kind
of token whatever its class; the class is read off the operator (`BinaryOperator.operatorClass`), so
no token can pair an operator with the class of another.
-/

namespace NumScript

/-- A word that cannot be a name. -/
inductive Keyword where
  | function
  | varKeyword
  | ifKeyword
  | elseKeyword
  | returnKeyword
  | exportKeyword
  | asKeyword
deriving DecidableEq

/-- A bracket or a divider. -/
inductive Mark where
  | assign
  | leftParen
  | rightParen
  | leftBrace
  | rightBrace
  | semicolon
  | comma
deriving DecidableEq

/-- One word of a script. -/
inductive Token where
  | keyword (word : Keyword)
  | operator (op : BinaryOperator)
  | mark (sign : Mark)
  | identifier (name : String)
  | number (value : Binary64)
deriving DecidableEq

/-! ## 1. Spelling -/

namespace Keyword

/-- All keywords. -/
def all : List Keyword :=
  [.function, .varKeyword, .ifKeyword, .elseKeyword, .returnKeyword, .exportKeyword, .asKeyword]

/-- The keyword as it is written in a script. -/
def spelling : Keyword → String
  | .function => "function"
  | .varKeyword => "var"
  | .ifKeyword => "if"
  | .elseKeyword => "else"
  | .returnKeyword => "return"
  | .exportKeyword => "export"
  | .asKeyword => "as"

/-- The name of the keyword. -/
def name : Keyword → String
  | .function => "Function"
  | .varKeyword => "Var"
  | .ifKeyword => "If"
  | .elseKeyword => "Else"
  | .returnKeyword => "Return"
  | .exportKeyword => "Export"
  | .asKeyword => "As"

/-- The keyword with this spelling, if there is one. -/
def ofSpelling? (word : String) : Option Keyword := all.find? fun keyword => keyword.spelling == word

theorem mem_all (keyword : Keyword) : keyword ∈ all := by cases keyword <;> decide

end Keyword

namespace Mark

/-- The mark as it is written in a script. -/
def spelling : Mark → String
  | .assign => "="
  | .leftParen => "("
  | .rightParen => ")"
  | .leftBrace => "\x7b"
  | .rightBrace => "\x7d"
  | .semicolon => ";"
  | .comma => ","

/-- The name of the mark. -/
def name : Mark → String
  | .assign => "Assign"
  | .leftParen => "LParen"
  | .rightParen => "RParen"
  | .leftBrace => "LBrace"
  | .rightBrace => "RBrace"
  | .semicolon => "Semicolon"
  | .comma => "Comma"

end Mark

/-! ## 2. Showing a token -/

namespace OperatorClass

/-- The name of the tokens of this class. -/
def name : OperatorClass → String
  | .additive => "AdditiveOperator"
  | .multiplicative => "MultiplicativeOperator"
  | .relational => "RelationalOperator"

end OperatorClass

namespace Token

/-- The token as data: its name, and what it holds. -/
def data : Token → Data
  | .keyword word => .word word.name
  | .operator op => .choice op.operatorClass.name (.word op.name)
  | .mark sign => .word sign.name
  | .identifier name => .choice "Identifier" (.text name)
  | .number value => .choice "Number" (.number value)

/-- The token in the inspection form. -/
def inspect (token : Token) : String := token.data.inspect

end Token

end NumScript
