import NumScript.Compile
import NumScript.File.Path

/-!
# Commands

What can be asked of the library from a command line: to compile a script file, to show how one is
read, and to list the targets. A command is carried out by a PLAN: lines to write, files to read and
write, and how it ends (`Plan`). The plan itself touches nothing; whoever carries it out stops at the
first file that cannot be read or written and reports that as the failure.
-/

namespace NumScript

/-! ## 1. Commands and plans -/

/-- What `compile` is asked to do. -/
structure CompileOptions where
  /-- The path of the script. -/
  input : String
  /-- The name of the target. -/
  target : String := "wat32"
  /-- The path of the module, if it is not to be named after the script. -/
  output : Option String := none
  /-- Show the program. -/
  showTree : Bool := false
  /-- Write the program to a file too. -/
  emitTree : Bool := false
  /-- Show what the parser looks up. -/
  trace : Bool := false

/-- What can be asked from a command line. -/
inductive Command where
  /-- To compile a script file. -/
  | compile (options : CompileOptions)
  /-- To show how a script file is read; `trace` shows what the parser looks up, too. -/
  | parse (input : String) (trace : Bool)
  /-- To list the targets. -/
  | targets

/-- What has to be done, one thing after the other. -/
inductive Plan where
  /-- All is done. -/
  | done
  /-- It ends here, with this failure. -/
  | fail (error : CompileError)
  /-- A line of output, and what follows. -/
  | say (line : String) (next : Plan)
  /-- A line of diagnostics, and what follows. -/
  | warn (line : String) (next : Plan)
  /-- The text of a file is read, and decides what follows. -/
  | read (path : String) (next : String → Plan)
  /-- A file is written, and what follows. -/
  | write (path text : String) (next : Plan)

namespace Plan

/-- Several lines of output. -/
def sayAll (lines : List String) (next : Plan) : Plan := lines.foldr .say next

/-- Several lines of diagnostics. -/
def warnAll (lines : List String) (next : Plan) : Plan := lines.foldr .warn next

end Plan

/-! ## 2. Compiling -/

/-- The number of lines of a text; a text that ends in a line break has no empty line after it. -/
def lineCount (text : String) : Nat :=
  let breaks := text.toList.count '\n'
  if text.toList.getLast?.all (· == '\n') then breaks else breaks + 1

/-- What the parser looks up in a script, line by line, if that is asked for. -/
def traceLines (wanted : Bool) (source : String) : List String :=
  if wanted then (NumScript.trace source).map Automaton.Lookup.line else []

/-- How `compile` ends, when the program is there: the module is written, if the target is known. -/
def finishCompile (options : CompileOptions) (program : Program) : Plan :=
  match Target.ofName? options.target with
  | none => .warn ("Unknown target: " ++ options.target) .done
  | some target =>
    match compileProgram target.width program with
    | .error error => .fail (.lower error)
    | .ok text =>
      let path := options.output.getD (Path.besides "wat" options.input)
      .write path text <|
        .say ("Compiled to: " ++ path) <|
          .say ("Code size: " ++ toString (lineCount text) ++ " lines") .done

/-- The plan of `compile`. -/
def compilePlan (options : CompileOptions) : Plan :=
  .say ("Compiling " ++ options.input ++ " for " ++ options.target ++ "...") <|
    .read options.input fun source =>
      .warnAll (traceLines options.trace source) <|
        match NumScript.parse source with
        | .error error => .fail (.parse error)
        | .ok program =>
          let shown := if options.showTree then ["=== AST ===", program.data.inspectIndented] else []
          let rest := finishCompile options program
          .sayAll shown <|
            if options.emitTree then
              let path := Path.besides "ast.json" options.input
              .write path program.data.jsonIndented (.say ("AST written to: " ++ path) rest)
            else rest

/-! ## 3. The other commands -/

/-- The plan of `parse`. A character that no lexeme begins with ends it with a failure, but a fault
    that the parser finds is only reported. -/
def parsePlan (input : String) (trace : Bool) : Plan :=
  .say ("Parsing " ++ input ++ "...") <|
    .read input fun source =>
      .sayAll ["=== SOURCE ===", source, "=== TOKENS ==="] <|
        match tokenize source with
        | .error error => .fail (.parse (.scan error))
        | .ok tokens =>
          .sayAll (tokens.map Token.inspect ++ ["=== AST ==="]) <|
            .warnAll (traceLines trace source) <|
              match NumScript.parse source with
              | .ok program => .say program.data.inspectIndented .done
              | .error error => .warn ("Error: " ++ error.message) .done

/-- The line of a target in the list, its name filled up to eight characters. -/
def targetLine (target : Target) : String :=
  "  " ++ String.ofList (target.name.toList.rightpad 8 ' ') ++ " - " ++ target.description

/-- The plan of `targets`. -/
def targetsPlan : Plan := .sayAll ("Supported targets:" :: Target.all.map targetLine) .done

/-- The plan of a command. -/
def Command.plan : Command → Plan
  | .compile options => compilePlan options
  | .parse input trace => parsePlan input trace
  | .targets => targetsPlan

end NumScript
