/-!
# Blank characters

The characters that may stand between two lexemes: those with the property White_Space of the
Unicode standard. There are 25 of them, only six of which are ASCII, so a table in code point order
is the definition.
-/

namespace NumScript

/-- The blank characters as ranges of code points, in order. -/
def blankRanges : List (Nat × Nat) :=
  [(0x09, 0x0d), (0x20, 0x20), (0x85, 0x85), (0xa0, 0xa0), (0x1680, 0x1680), (0x2000, 0x200a),
   (0x2028, 0x2029), (0x202f, 0x202f), (0x205f, 0x205f), (0x3000, 0x3000)]

/-- Whether a code point lies in one of these ranges. -/
def inRanges (ranges : List (Nat × Nat)) (point : Nat) : Bool :=
  ranges.any fun range => range.1 ≤ point && point ≤ range.2

/-- Whether a character may stand between two lexemes. -/
def isBlank (c : Char) : Bool := inRanges blankRanges c.toNat

/-- There are 25 blank characters. -/
example : (blankRanges.map fun range => range.2 + 1 - range.1).sum = 25 := by decide

end NumScript
