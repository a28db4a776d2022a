import NumScript.Automaton.Transition
import NumScript.Token.Scan

/-!
# Configurations of the automaton

Between two steps the automaton is its stack and the rest of its input. An entry of the stack is a
symbol and the state it led to; under the lowest entry the state is always "before a statement", so
that state is not stored and nothing can take it away.

This file has the moves of which reductions are made: taking the next token, taking symbols off the
stack, and the errors of both. A move that fails reports the state on the top of the stack AT THAT
MOMENT, that is, after the symbols that were taken off before it.

One token of the input is always known in advance. Taking a token therefore reads the one after it,
and fails if a character that no lexeme begins with stands there (`advance`).
-/

namespace NumScript.Automaton

/-! ## 1. Errors -/

/-- Why a script is not a program. -/
inductive ParseError where
  /-- A character that no lexeme begins with. -/
  | scan (error : ScanError)
  /-- A symbol that does not fit in this state. -/
  | unexpected (state : State) (kind : Kind)
  /-- The end of the script, in this state. -/
  | unexpectedEnd (state : State)
deriving DecidableEq

/-- The message of an error. -/
def ParseError.message : ParseError → String
  | .scan error =>
    "Lexer error at offset " ++ toString error.offset ++ ": unexpected character '" ++
      String.singleton error.character ++ "'"
  | .unexpected state kind => "Syntax error in state " ++ state.name ++ ": unexpected " ++ kind.shown
  | .unexpectedEnd state => "Syntax error in state " ++ state.name ++ ": unexpected end of input"

/-! ## 2. Configurations -/

/-- An entry of the stack. -/
structure Entry where
  /-- The state that the symbol led to. -/
  state : State
  /-- The symbol. -/
  symbol : Symbol

/-- The stack, its top first, and the input that is not taken yet. -/
structure Config where
  /-- The entries of the stack. -/
  stack : List Entry
  /-- The tokens that are not taken yet, and why they end. -/
  input : Scan

namespace Config

/-- The state on the top of the stack. -/
def state (config : Config) : State :=
  match config.stack with
  | [] => .beforeStatement
  | entry :: _ => entry.state

/-- A symbol put on the stack. -/
def push (config : Config) (next : State) (symbol : Symbol) : Config :=
  { config with stack := ⟨next, symbol⟩ :: config.stack }

/-- The error that a symbol is out of place. -/
def unexpected (config : Config) (symbol : Symbol) : ParseError :=
  .unexpected config.state symbol.kind

/-- The error that the next token is out of place. -/
def unexpectedNext (config : Config) : ParseError :=
  match config.input.tokens with
  | [] => .unexpectedEnd config.state
  | token :: _ => .unexpected config.state (tokenKind token)

end Config

/-! ## 3. Moves -/

/-- A move: it changes the configuration and gives a result, or fails. -/
abbrev Move (α : Type) := StateT Config (Except ParseError) α

namespace Move

/-- Fails with an error of the configuration at hand. -/
def fail {α : Type} (error : Config → ParseError) : Move α := fun config => .error (error config)

/-- Takes the next token. -/
def advance : Move Token := fun config =>
  match config.input.tokens, config.input.stop with
  | [], _ => .error (.unexpectedEnd config.state)
  | [_], some error => .error (.scan error)
  | token :: rest, stop => .ok (token, { config with input := ⟨rest, stop⟩ })

/-- Takes the next token, which has to be of this kind. -/
def expect (kind : Kind) : Move Token := fun config =>
  match config.input.tokens with
  | [] => .error (.unexpectedEnd config.state)
  | token :: _ =>
    if tokenKind token = kind then advance config
    else .error (.unexpected config.state (tokenKind token))

/-- Takes the top symbol off the stack. -/
def pop : Move Symbol := fun config =>
  match config.stack with
  | [] => .error config.unexpectedNext
  | entry :: rest => .ok (entry.symbol, { config with stack := rest })

/-- Takes the top symbol off the stack, of which `read` makes the result; a symbol of which it makes
    none is out of place. -/
def popAs {α : Type} (read : Symbol → Option α) : Move α := do
  let symbol ← pop
  match read symbol with
  | some value => pure value
  | none => fail (·.unexpected symbol)

/-- Takes a token of this kind off the stack. -/
def popToken (kind : Kind) : Move Unit :=
  popAs fun symbol => if symbol.isTokenOf kind then some () else none

/-- Takes a name off the stack. -/
def popName : Move String := popAs Symbol.name?

/-- Takes an expression off the stack. -/
def popExpression : Move Expression := popAs Symbol.expression?

/-- Takes a binary operator of this class off the stack. -/
def popOperator (wanted : OperatorClass) : Move BinaryOperator := popAs fun
  | .token (.operator op) => if op.operatorClass = wanted then some op else none
  | _ => none

/-- Takes everything off the stack down to the nearest token of the kind `opening`, and that too.
    The result is what lay above it, the lowest first. If there is no such token, it is `closing`
    that is out of place. -/
def popUntil (opening closing : Kind) : Move (List Symbol) := fun config =>
  match config.stack.dropWhile fun entry => !entry.symbol.isTokenOf opening with
  | [] => .error (.unexpected config.state closing)
  | _ :: rest =>
    let above := config.stack.takeWhile fun entry => !entry.symbol.isTokenOf opening
    .ok ((above.map Entry.symbol).reverse, { config with stack := rest })

/-- Takes the sum that is not complete yet off the stack, its first operand first. -/
def popChain : Move (List Symbol) := fun config =>
  let chain := config.stack.takeWhile fun entry => entry.symbol.isChainElement
  .ok ((chain.map Entry.symbol).reverse,
    { config with stack := config.stack.dropWhile fun entry => entry.symbol.isChainElement })

/-- Reads each symbol of a list in turn. `read` gives nothing for a symbol that is out of place, and
    no value for one that only divides. -/
def readAll {α : Type} (read : Symbol → Option (Option α)) : List Symbol → Move (List α)
  | [] => pure []
  | symbol :: rest =>
    match read symbol with
    | none => fail (·.unexpected symbol)
    | some none => readAll read rest
    | some (some value) => do
      let values ← readAll read rest
      pure (value :: values)

end Move

end NumScript.Automaton
