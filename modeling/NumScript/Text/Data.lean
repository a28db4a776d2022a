import NumScript.Number.Style
import NumScript.Text.Layout
import NumScript.Text.Quoted

/-!
# Data views

A `Data` is a value of the library seen as plain data: numbers, texts, lists, records with named
fields and alternatives with a name. A type that is to be shown gives its data view, and the two
forms below follow from that alone:

* the INSPECTION form names every record and alternative (`Data.inspect`, `Data.inspectIndented`);
* the JSON form writes a record as an object and an alternative as an object with one member, or as a
  string when it holds nothing (`Data.json`, `Data.jsonIndented`).
-/

namespace NumScript

/-! ## 1. Data -/

/-- A value seen as plain data. -/
inductive Data where
  /-- A number. -/
  | number (value : Binary64)
  /-- A text. -/
  | text (value : String)
  /-- An alternative that holds nothing. -/
  | word (name : String)
  /-- An optional value that is not there. -/
  | absent
  /-- An optional value that is there. -/
  | present (value : Data)
  /-- A list. -/
  | list (items : List Data)
  /-- A field of a record. -/
  | field (label : String) (value : Data)
  /-- A record; its items are fields. -/
  | record (name : String) (fields : List Data)
  /-- An alternative that holds one value. -/
  | choice (name : String) (value : Data)
  /-- An alternative that holds named fields. -/
  | choiceRecord (name : String) (fields : List Data)

namespace Data

/-! ## 2. The inspection form -/

/-- Numbers in the inspection form: a whole number keeps its point, and an exponent is written below
    `10 ^ (-4)` and from `10 ^ 16` on. -/
def inspectNumber : NumberStyle where
  isPlain point := -3 ≤ point && point ≤ 16
  keepsPoint := true
  signsExponent := false
  tie := .up
  nan := "NaN"
  infinite := "inf"
  negativeInfinite := "-inf"

mutual
/-- The inspection form, not broken into lines yet. -/
def inspectLayout : Data → Layout
  | .number value => .atom (inspectNumber.render value)
  | .text value => .atom (inspectString value)
  | .word name => .atom name
  | .absent => .atom "None"
  | .present value => .group "Some" "(" ")" [inspectLayout value]
  | .list items => .group "" "[" "]" (inspectLayouts items)
  | .field label value => .labelled label (inspectLayout value)
  | .record name fields => .group (name ++ " ") "\x7b" "\x7d" (inspectLayouts fields)
  | .choice name value => .group name "(" ")" [inspectLayout value]
  | .choiceRecord name fields => .group (name ++ " ") "\x7b" "\x7d" (inspectLayouts fields)

/-- The inspection forms of the members of a list. -/
def inspectLayouts : List Data → List Layout
  | [] => []
  | item :: rest => inspectLayout item :: inspectLayouts rest
end

/-- On one line, a blank follows every comma and colon and stands inside the braces of a record. -/
def inspectInline : InlineStyle where
  separator := ", "
  colon := ": "
  padding opening := if opening = "\x7b" then " " else ""

/-- Over several lines, a step is four spaces wide and every item ends in a comma. -/
def inspectIndent : IndentStyle where
  step := 4
  trailingComma := true

/-- The inspection form on one line. -/
def inspect (data : Data) : String := data.inspectLayout.inline inspectInline

/-- The inspection form over several lines. -/
def inspectIndented (data : Data) : String := data.inspectLayout.indented inspectIndent 0

/-! ## 3. The JSON form -/

/-- Numbers in the JSON form: a whole number keeps its point, an exponent is written with its sign
    below `10 ^ (-5)` and from `10 ^ 16` on, and a value that is not finite is `null`. -/
def jsonNumber : NumberStyle where
  isPlain point := -4 ≤ point && point ≤ 16
  keepsPoint := true
  signsExponent := true
  tie := .even
  nan := "null"
  infinite := "null"
  negativeInfinite := "null"

mutual
/-- The JSON form, not broken into lines yet. -/
def jsonLayout : Data → Layout
  | .number value => .atom (jsonNumber.render value)
  | .text value => .atom (jsonString value)
  | .word name => .atom (jsonString name)
  | .absent => .atom "null"
  | .present value => jsonLayout value
  | .list items => .group "" "[" "]" (jsonLayouts items)
  | .field label value => .labelled (jsonString label) (jsonLayout value)
  | .record _ fields => .group "" "\x7b" "\x7d" (jsonLayouts fields)
  | .choice name value =>
    .group "" "\x7b" "\x7d" [.labelled (jsonString name) (jsonLayout value)]
  | .choiceRecord name fields =>
    .group "" "\x7b" "\x7d"
      [.labelled (jsonString name) (.group "" "\x7b" "\x7d" (jsonLayouts fields))]

/-- The JSON forms of the members of a list. -/
def jsonLayouts : List Data → List Layout
  | [] => []
  | item :: rest => jsonLayout item :: jsonLayouts rest
end

/-- On one line there are no blanks at all. -/
def jsonInline : InlineStyle where
  separator := ","
  colon := ":"
  padding _ := ""

/-- Over several lines, a step is two spaces wide and the last item has no comma. -/
def jsonIndent : IndentStyle where
  step := 2
  trailingComma := false

/-- The JSON form on one line. -/
def json (data : Data) : String := data.jsonLayout.inline jsonInline

/-- The JSON form over several lines. -/
def jsonIndented (data : Data) : String := data.jsonLayout.indented jsonIndent 0

end Data

end NumScript
