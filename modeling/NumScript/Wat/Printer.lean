import NumScript.Number.Style
import NumScript.Wat.Module

/-!
# The text of a module

A module is written in the text format: one instruction a line, two spaces further in for each level.
Every module begins with the same three lines, which import the function that writes a message and a
memory, and put the message there. Names are written as they are.
-/

namespace NumScript.Wat

/-! ## 1. Numbers -/

/-- Numbers in the text of a module: always in full, and a whole number without a point. -/
def floatStyle : NumberStyle where
  isPlain _ := true
  keepsPoint := false
  signsExponent := false
  tie := .up
  nan := "NaN"
  infinite := "inf"
  negativeInfinite := "-inf"

/-! ## 2. Instructions -/

/-- A line that is so many levels in. -/
def line (depth : Nat) (text : String) : String :=
  String.ofList (List.replicate (2 * depth) ' ') ++ text ++ "\n"

mutual
/-- The lines of an instruction. -/
def Instruction.print (width : FloatWidth) (depth : Nat) : Instruction → String
  | .const value => line depth ("(" ++ width.typeName ++ ".const " ++ floatStyle.render value ++ ")")
  | .i32Const value => line depth ("(i32.const " ++ toString value.toInt ++ ")")
  | .localGet name => line depth ("(local.get $" ++ name ++ ")")
  | .localSet name => line depth ("(local.set $" ++ name ++ ")")
  | .float operation => line depth ("(" ++ width.typeName ++ "." ++ operation.mnemonic ++ ")")
  | .call name => line depth ("(call $" ++ name ++ ")")
  | .drop => line depth "(drop)"
  | .ifElse consequent alternate =>
    line depth "(if" ++
      line (depth + 1) "(then" ++ printBody width (depth + 2) consequent ++ line (depth + 1) ")" ++
      line (depth + 1) "(else" ++ printBody width (depth + 2) alternate ++ line (depth + 1) ")" ++
      line depth ")"
  | .block label body =>
    line depth ("(block $" ++ label) ++ printBody width (depth + 1) body ++ line depth ")"
  | .br label => line depth ("(br $" ++ label ++ ")")

/-- The lines of a body. -/
def printBody (width : FloatWidth) (depth : Nat) : List Instruction → String
  | [] => ""
  | instruction :: rest => instruction.print width depth ++ printBody width depth rest
end

/-! ## 3. Modules -/

/-- A local or a parameter with its type. -/
def typedName (word : String) (width : FloatWidth) (name : String) : String :=
  "(" ++ word ++ " $" ++ name ++ " " ++ width.typeName ++ ")"

/-- The lines of a function. -/
def Function.print (width : FloatWidth) (function : Function) : String :=
  let params := String.join (function.params.map fun param => " " ++ typedName "param" width param)
  line 1 ("(func $" ++ function.name ++ params ++ " (result " ++ width.typeName ++ ")") ++
    line 2 (typedName "local" width resultSlot) ++
    String.join (function.locals.map fun name => line 2 (typedName "local" width name)) ++
    printBody width 2 function.body ++ line 1 ")"

/-- The line of an export. -/
def Export.print (item : Export) : String :=
  line 1 ("(export \"" ++ item.name ++ "\" (func $" ++ item.function ++ "))")

/-- The first lines of every module. -/
def preamble : String :=
  line 0 "(module" ++
    line 1 ("(import \"js\" \"" ++ logFunction ++ "\" (func $" ++ logFunction ++
      " (param i32) (param i32)))") ++
    line 1 "(import \"js\" \"mem\" (memory 1))" ++
    line 1 ("(data (i32.const 0) \"" ++ faultMessage ++ "\")")

/-- The text of a module. -/
def Module.print (module : Module) : String :=
  preamble ++ String.join (module.functions.map (Function.print module.width)) ++
    String.join (module.exports.map Export.print) ++ line 0 ")"

end NumScript.Wat
