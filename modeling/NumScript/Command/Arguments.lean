import NumScript.Command

/-!
# Command lines

How a command is written on a command line: its name, then the path of the script and the options in
any order. An option that takes a value has it as the next argument, or after an equals sign if the
option is written out.
-/

namespace NumScript.Command

/-- What follows a beginning of a text, if the text begins so. -/
def valueAfter? (beginning text : String) : Option String :=
  if beginning.toList.isPrefixOf text.toList then
    some (String.ofList (text.toList.drop beginning.length))
  else none

/-- The options of `compile`; `input?` is the path, once it was met. -/
def readCompile (input? : Option String) (options : CompileOptions) : List String → Option Command
  | [] => input?.map fun input => .compile { options with input }
  | "-t" :: value :: rest => readCompile input? { options with target := value } rest
  | "--target" :: value :: rest => readCompile input? { options with target := value } rest
  | "-o" :: value :: rest => readCompile input? { options with output := some value } rest
  | "--output" :: value :: rest => readCompile input? { options with output := some value } rest
  | "--show-ast" :: rest => readCompile input? { options with showTree := true } rest
  | "--emit-ast" :: rest => readCompile input? { options with emitTree := true } rest
  | "--trace" :: rest => readCompile input? { options with trace := true } rest
  | argument :: rest =>
    match valueAfter? "--target=" argument, valueAfter? "--output=" argument, input? with
    | some value, _, _ => readCompile input? { options with target := value } rest
    | _, some value, _ => readCompile input? { options with output := some value } rest
    | none, none, none => readCompile (some argument) options rest
    | none, none, some _ => none

/-- The options of `parse`; `input?` is the path, once it was met. -/
def readParse (input? : Option String) (trace : Bool) : List String → Option Command
  | [] => input?.map fun input => .parse input trace
  | "--trace" :: rest => readParse input? true rest
  | argument :: rest => if input?.isNone then readParse (some argument) trace rest else none

/-- The command that a command line asks for. -/
def ofArguments? : List String → Option Command
  | "compile" :: rest => readCompile none { input := "" } rest
  | "parse" :: rest => readParse none false rest
  | ["targets"] => some .targets
  | _ => none

end NumScript.Command
