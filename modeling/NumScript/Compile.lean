import NumScript.File.Error
import NumScript.Lowering
import NumScript.Parse
import NumScript.Wat.Printer

/-!
# Compiling a script

A script is parsed, lowered and printed. This file joins the three, names the targets that a script
can be compiled for, and collects the ways in which compiling can fail.
-/

namespace NumScript

/-! ## 1. Targets -/

/-- What a script is compiled for. -/
inductive Target where
  | wat32
  | wat64
deriving DecidableEq

namespace Target

/-- All targets, in the order in which they are listed. -/
def all : List Target := [.wat32, .wat64]

theorem mem_all (target : Target) : target ∈ all := by cases target <;> decide

/-- The name of a target. -/
def name : Target → String
  | .wat32 => "wat32"
  | .wat64 => "wat64"

/-- What a target is, in words. -/
def description : Target → String
  | .wat32 => "WebAssembly text, f32 numbers"
  | .wat64 => "WebAssembly text, f64 numbers"

/-- The width of the floats of a target. -/
def width : Target → Wat.FloatWidth
  | .wat32 => .f32
  | .wat64 => .f64

/-- The target with this name, if there is one. -/
def ofName? (name : String) : Option Target := all.find? fun target => target.name == name

end Target

/-! ## 2. Errors -/

/-- Why nothing was compiled. -/
inductive CompileError where
  /-- A file could not be read or written. -/
  | file (error : FileError)
  /-- The script is not a program. -/
  | parse (error : Automaton.ParseError)
  /-- The program cannot be lowered. -/
  | lower (error : LowerError)

namespace CompileError

/-- The message of an error. -/
def message : CompileError → String
  | .file error => "IO error: " ++ error.message
  | .parse error => error.message
  | .lower error => "Backend compiling error: " ++ error.message

/-- The error as data. -/
def data : CompileError → Data
  | .file error => error.data
  | .parse (.scan error) =>
    .choiceRecord "LexerError"
      [.field "offset" (.word (toString error.offset)),
        .field "character" (.word (inspectChar error.character))]
  | .parse (.unexpected state kind) =>
    .choiceRecord "SyntaxError" [.field "state" (.word state.name), .field "symbol" (.word kind.name)]
  | .parse (.unexpectedEnd state) =>
    .choiceRecord "UnexpectedEof" [.field "state" (.word state.name)]
  | .lower error => .choiceRecord "BackendError" [.field "message" (.text error.message)]

end CompileError

/-! ## 3. Compiling -/

/-- The text of the module of a program. -/
def compileProgram (width : Wat.FloatWidth) (program : Program) : Except LowerError String := do
  let module ← lower width program
  pure module.print

/-- The text of the module of a script. -/
def compile (width : Wat.FloatWidth) (source : String) : Except CompileError String := do
  let program ← (parse source).mapError .parse
  (compileProgram width program).mapError .lower

/-- The text of the module of a script that was read from a file. -/
def compileRead (width : Wat.FloatWidth) (source : Except FileError String) :
    Except CompileError String := do
  let source ← source.mapError .file
  compile width source

end NumScript
