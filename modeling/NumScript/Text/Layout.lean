/-!
# Bracketed layouts

A `Layout` is a text made of atoms and bracketed groups of items, before it is decided whether the
groups are written on one line or with one item a line. Two writers take that decision:

* `Layout.inline` puts everything on one line;
* `Layout.indented` gives every item of a group a line of its own, one step further in, and leaves
  an empty group as its two brackets.
-/

namespace NumScript

/-- Text with groups that are not broken into lines yet. -/
inductive Layout where
  /-- Text that is never broken. -/
  | atom (text : String)
  /-- A label, and what it labels. -/
  | labelled (label : String) (value : Layout)
  /-- Items between brackets; `head` stands right before the opening bracket. -/
  | group (head opening closing : String) (items : List Layout)

/-- How groups are written on one line. -/
structure InlineStyle where
  /-- What divides two items. -/
  separator : String
  /-- What divides a label from its value. -/
  colon : String
  /-- What stands inside a bracket, next to it. -/
  padding : String → String

/-- How groups are written over several lines. -/
structure IndentStyle where
  /-- The number of spaces of one step. -/
  step : Nat
  /-- The last item of a group is followed by a comma too. -/
  trailingComma : Bool

namespace Layout

/-! ## 1. One line -/

mutual
/-- The layout on one line. -/
def inline (style : InlineStyle) : Layout → String
  | .atom text => text
  | .labelled label value => label ++ style.colon ++ inline style value
  | .group head opening closing items =>
    head ++ opening ++ style.padding opening ++ inlineItems style items ++ style.padding opening ++
      closing

/-- The items of a group, with the separator between every two. -/
def inlineItems (style : InlineStyle) : List Layout → String
  | [] => ""
  | [item] => inline style item
  | item :: rest => inline style item ++ style.separator ++ inlineItems style rest
end

/-! ## 2. One item a line -/

/-- The spaces at the beginning of a line that is so many steps in. -/
def margin (style : IndentStyle) (depth : Nat) : String :=
  String.ofList (List.replicate (style.step * depth) ' ')

mutual
/-- The layout over several lines; the first one is already so many steps in. -/
def indented (style : IndentStyle) (depth : Nat) : Layout → String
  | .atom text => text
  | .labelled label value => label ++ ": " ++ indented style depth value
  | .group head opening closing [] => head ++ opening ++ closing
  | .group head opening closing (item :: rest) =>
    head ++ opening ++ "\n" ++ indentedItems style (depth + 1) (item :: rest) ++
      margin style depth ++ closing

/-- The items of a group, each on lines of its own. -/
def indentedItems (style : IndentStyle) (depth : Nat) : List Layout → String
  | [] => ""
  | [item] =>
    margin style depth ++ indented style depth item ++ (if style.trailingComma then ",\n" else "\n")
  | item :: rest =>
    margin style depth ++ indented style depth item ++ ",\n" ++ indentedItems style depth rest
end

end Layout

end NumScript
