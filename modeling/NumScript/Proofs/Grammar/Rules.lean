import NumScript.Program
import NumScript.Token

/-!
# The grammar of the language

The rules of the language, said without the automaton. A rule relates a phrase, that is, a tree and
the category in which it stands, to the tokens it is written with (`Derives`):

    Program    = Statement*
    Statement  = Function | var id [= Expression] ; | Expression ; | Name = Expression ;
               | if ( Atom relop Atom ) Block else Block | return Expression ;
               | export Function | export { [Specifier (, Specifier)* [,]] } ;
    Function   = function id ( [id (, id)* [,]] ) Block
    Block      = { Statement* }
    Specifier  = id | id as id
    Expression = Term (addop Term)*
    Term       = Unary (mulop Unary)*
    Unary      = addop Unary | Primary
    Primary    = number | Name | ( Expression ) | Name ( [Expression (, Expression)* [,]] )
    Name       = id | ( Name )
    Atom       = id | number

Sums and products are joined from left to right, so these two rules recur on the left. Parentheses
leave nothing in the tree.
-/

namespace NumScript

/-! ## 1. Parts of rules -/

/-- Members with commas between them; a comma after the last one is allowed. -/
inductive Separated : List (List Token) → List Token → Prop
  | nil : Separated [] []
  | last (words : List Token) : Separated [words] words
  | cons {members : List (List Token)} {rest : List Token} (words : List Token)
      (more : Separated members rest) : Separated (words :: members) (words ++ .mark .comma :: rest)

/-- The sign that an additive operator is before an operand. -/
inductive Signs : BinaryOperator → UnaryOperator → Prop
  | plus : Signs .add .plus
  | minus : Signs .subtract .negate

/-- A side of a comparison. -/
inductive Atom : Token → Expression → Prop
  | name (name : String) : Atom (.identifier name) (.var name)
  | number (value : Binary64) : Atom (.number value) (.number value)

/-- A member of an export. -/
inductive Specifies : ExportSpecifier → List Token → Prop
  | plain (name : String) : Specifies ⟨name, name⟩ [.identifier name]
  | renamed (localName exportedName : String) :
      Specifies ⟨localName, exportedName⟩
        [.identifier localName, .keyword .asKeyword, .identifier exportedName]

/-! ## 2. Derivations -/

/-- A tree and the category in which it stands. -/
inductive Phrase where
  | name (name : String)
  | primary (value : Expression)
  | unary (value : Expression)
  | term (value : Expression)
  | expression (value : Expression)
  | statement (value : Statement)
  | block (body : List Statement)
  | function (declaration : FunctionDeclaration)

/-- The phrases that can be written with these tokens. -/
inductive Derives : Phrase → List Token → Prop
  -- names
  | identifier (name : String) : Derives (.name name) [.identifier name]
  | enclosedName {name : String} {words : List Token} (inner : Derives (.name name) words) :
      Derives (.name name) (.mark .leftParen :: words ++ [.mark .rightParen])
  -- operands
  | number (value : Binary64) : Derives (.primary (.number value)) [.number value]
  | reading {name : String} {words : List Token} (inner : Derives (.name name) words) :
      Derives (.primary (.var name)) words
  | enclosed {value : Expression} {words : List Token} (inner : Derives (.expression value) words) :
      Derives (.primary value) (.mark .leftParen :: words ++ [.mark .rightParen])
  | call {callee : String} {calleeWords words : List Token}
      {arguments : List (Expression × List Token)} (named : Derives (.name callee) calleeWords)
      (each : ∀ argument ∈ arguments, Derives (.expression argument.1) argument.2)
      (list : Separated (arguments.map Prod.snd) words) :
      Derives (.primary (.call callee (arguments.map Prod.fst)))
        (calleeWords ++ .mark .leftParen :: words ++ [.mark .rightParen])
  | signed {op : BinaryOperator} {sign : UnaryOperator} {operand : Expression} {words : List Token}
      (signs : Signs op sign) (inner : Derives (.unary operand) words) :
      Derives (.unary (.unary sign operand)) (.operator op :: words)
  | unsigned {value : Expression} {words : List Token} (inner : Derives (.primary value) words) :
      Derives (.unary value) words
  -- products and sums
  | factor {value : Expression} {words : List Token} (inner : Derives (.unary value) words) :
      Derives (.term value) words
  | product {op : BinaryOperator} {left right : Expression} {leftWords rightWords : List Token}
      (onLeft : Derives (.term left) leftWords) (multiplicative : op.operatorClass = .multiplicative)
      (onRight : Derives (.unary right) rightWords) :
      Derives (.term (.binary op left right)) (leftWords ++ .operator op :: rightWords)
  | summand {value : Expression} {words : List Token} (inner : Derives (.term value) words) :
      Derives (.expression value) words
  | sum {op : BinaryOperator} {left right : Expression} {leftWords rightWords : List Token}
      (onLeft : Derives (.expression left) leftWords) (additive : op.operatorClass = .additive)
      (onRight : Derives (.term right) rightWords) :
      Derives (.expression (.binary op left right)) (leftWords ++ .operator op :: rightWords)
  -- statements
  | declaration {declaration : FunctionDeclaration} {words : List Token}
      (function : Derives (.function declaration) words) :
      Derives (.statement (.function declaration.name declaration.params declaration.body)) words
  | uninitialized (name : String) :
      Derives (.statement (.variableDeclaration name none))
        [.keyword .varKeyword, .identifier name, .mark .semicolon]
  | initialized {name : String} {value : Expression} {words : List Token}
      (init : Derives (.expression value) words) :
      Derives (.statement (.variableDeclaration name (some value)))
        (.keyword .varKeyword :: .identifier name :: .mark .assign :: words ++ [.mark .semicolon])
  | evaluation {value : Expression} {words : List Token} (inner : Derives (.expression value) words) :
      Derives (.statement (.expression value)) (words ++ [.mark .semicolon])
  | assignment {target : String} {value : Expression} {targetWords words : List Token}
      (named : Derives (.name target) targetWords) (inner : Derives (.expression value) words) :
      Derives (.statement (.expression (.assign target value)))
        (targetWords ++ .mark .assign :: words ++ [.mark .semicolon])
  | choice {leftToken rightToken : Token} {left right : Expression} {op : BinaryOperator}
      {consequent alternate : List Statement} {consequentWords alternateWords : List Token}
      (onLeft : Atom leftToken left) (relational : op.operatorClass = .relational)
      (onRight : Atom rightToken right) (first : Derives (.block consequent) consequentWords)
      (second : Derives (.block alternate) alternateWords) :
      Derives (.statement (.ifElse (.binary op left right) consequent alternate))
        (.keyword .ifKeyword :: .mark .leftParen :: leftToken :: .operator op :: rightToken ::
          .mark .rightParen :: consequentWords ++ .keyword .elseKeyword :: alternateWords)
  | result {value : Expression} {words : List Token} (inner : Derives (.expression value) words) :
      Derives (.statement (.returnValue value))
        (.keyword .returnKeyword :: words ++ [.mark .semicolon])
  | exportFunction {declaration : FunctionDeclaration} {words : List Token}
      (function : Derives (.function declaration) words) :
      Derives (.statement (.exportFunction declaration.name declaration.params declaration.body))
        (.keyword .exportKeyword :: words)
  | exportList {specifiers : List (ExportSpecifier × List Token)} {words : List Token}
      (each : ∀ specifier ∈ specifiers, Specifies specifier.1 specifier.2)
      (list : Separated (specifiers.map Prod.snd) words) :
      Derives (.statement (.exportSpecifiers (specifiers.map Prod.fst)))
        (.keyword .exportKeyword :: .mark .leftBrace :: words ++
          [.mark .rightBrace, .mark .semicolon])
  -- blocks and functions
  | block {statements : List (Statement × List Token)}
      (each : ∀ statement ∈ statements, Derives (.statement statement.1) statement.2) :
      Derives (.block (statements.map Prod.fst))
        (.mark .leftBrace :: (statements.map Prod.snd).flatten ++ [.mark .rightBrace])
  | function {name : String} {params : List String} {body : List Statement}
      {paramWords bodyWords : List Token}
      (list : Separated (params.map fun param => [.identifier param]) paramWords)
      (block : Derives (.block body) bodyWords) :
      Derives (.function ⟨name, params, body⟩)
        (.keyword .function :: .identifier name :: .mark .leftParen :: paramWords ++
          .mark .rightParen :: bodyWords)

/-- The programs that can be written with these tokens: statements one after the other. -/
inductive Program.DerivedFrom : Program → List Token → Prop
  | statements {statements : List (Statement × List Token)}
      (each : ∀ statement ∈ statements, Derives (.statement statement.1) statement.2) :
      DerivedFrom ⟨statements.map Prod.fst⟩ (statements.map Prod.snd).flatten

/-! ## 3. Names among expressions -/

/-- The expression of a phrase of one of the four categories of expressions. -/
def Phrase.value? : Phrase → Option Expression
  | .primary value | .unary value | .term value | .expression value => some value
  | _ => none

/-- A variable is written as a name in every category: no other rule leaves only a name in the tree. -/
theorem Derives.name_of_var {phrase : Phrase} {words : List Token} {name : String}
    (h : Derives phrase words) (isVar : phrase.value? = some (.var name)) :
    Derives (.name name) words := by
  induction h with
  | enclosed inner ih => exact .enclosedName (ih isVar)
  | reading inner ih =>
    cases isVar
    exact inner
  | unsigned inner ih => exact ih isVar
  | factor inner ih => exact ih isVar
  | summand inner ih => exact ih isVar
  | _ => cases isVar

end NumScript
