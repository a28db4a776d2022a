import NumScript.Number.Binary64

/-!
# The shortest decimal of a value

A finite value other than zero is written with the fewest decimal digits that read back as the same
value, and of the decimals of that length with the nearest one. This file computes those digits in
exact natural arithmetic:

* the decimals that read back as `significand * 2 ^ scale` units lie in an interval around it
  (`Neighbourhood`) that reaches half way to the next value on either side; its ends belong to it
  exactly when the significand is even, because a tie rounds to even;
* for 1, 2, … 17 digits the two decimals around the value are tried, and the first length with a
  decimal in the interval wins; of two the nearer one, and an exact tie goes as `Tie` says.

Everything is scaled by `10 ^ 341`: the smallest value then has 18 digits before the point, so that
a grid of 17 digits still has a whole step.
-/

namespace NumScript

/-! ## 1. Decimals -/

/-- The decimal `digits * 10 ^ exponent`. -/
structure Decimal where
  /-- The digits, read as one number. -/
  digits : Nat
  /-- The place of the last digit. -/
  exponent : Int
deriving DecidableEq

/-- Which of two equally near decimals is written. -/
inductive Tie where
  /-- The larger one. -/
  | up
  /-- The one whose last digit is even. -/
  | even
deriving DecidableEq

namespace Decimal

/-- Trailing zeros of a number, at most `fuel` of them, moved into an exponent. -/
def dropZeros : Nat → Nat → Int → Decimal
  | 0, digits, exponent => ⟨digits, exponent⟩
  | fuel + 1, digits, exponent =>
    if digits % 10 = 0 then dropZeros fuel (digits / 10) (exponent + 1) else ⟨digits, exponent⟩

/-- The number of decimal digits of a natural number; zero has one. -/
def digitCount (n : Nat) : Nat := (Nat.toDigits 10 n).length

/-! ## 2. The interval around a value -/

/-- A value and the ends of the interval that rounds to it, over one common denominator. -/
structure Neighbourhood where
  /-- The lower end. -/
  low : Nat
  /-- The value. -/
  value : Nat
  /-- The upper end. -/
  high : Nat
  /-- Whether the ends belong to the interval. -/
  closed : Bool

/-- The denominator of a neighbourhood: a quarter of a unit. -/
def quarter : Nat := twoTo 1076

/-- The places by which everything is moved to the left. -/
def shift : Nat := 341

/-- The neighbourhood of `significand * 2 ^ scale` units. Below a power of two the next value is
    only half as far away, except at the lowest scale. -/
def Neighbourhood.of (significand scale : Nat) : Neighbourhood :=
  let below := if significand = twoTo 52 ∧ scale ≠ 0 then 1 else 2
  let factor := twoTo scale * tenTo shift
  { low := (4 * significand - below) * factor
    value := 4 * significand * factor
    high := (4 * significand + 2) * factor
    closed := significand % 2 = 0 }

/-- Whether a point, over the same denominator, lies in the interval. -/
def Neighbourhood.contains (n : Neighbourhood) (point : Nat) : Bool :=
  if n.closed then n.low ≤ point && point ≤ n.high else n.low < point && point < n.high

/-! ## 3. The search -/

/-- The decimal of the grid with this step that is in the interval, if there is one: of the two
    around the value the nearer. -/
def Neighbourhood.onGrid (n : Neighbourhood) (tie : Tie) (step : Nat) : Option Nat :=
  let lower := n.value / step
  let upper := lower + 1
  let toLower := n.value - lower * step
  let toUpper := upper * step - n.value
  match n.contains (lower * step), n.contains (upper * step) with
  | false, false => none
  | true, false => some lower
  | false, true => some upper
  | true, true =>
    if toLower < toUpper then some lower
    else if toUpper < toLower then some upper
    else match tie with
      | .up => some upper
      | .even => if lower % 2 = 0 then some lower else some upper

/-- The shortest decimal of `significand * 2 ^ scale` units, for a significand that is not zero. -/
def shortest (tie : Tie) (significand scale : Nat) : Decimal :=
  let n := Neighbourhood.of significand scale
  let places := digitCount (n.value / quarter)
  let candidate (length : Nat) : Option Decimal :=
    (n.onGrid tie (tenTo (places - length) * quarter)).map fun digits =>
      dropZeros 17 digits ((places : Int) - length - shift)
  ((List.range' 1 17).findSome? candidate).getD ⟨0, 0⟩

/-! ## 4. The boundary cases -/

example : shortest .up 1 0 = ⟨5, -324⟩ := by decide +kernel
example : shortest .up (twoTo 52) 1022 = ⟨1, 0⟩ := by decide +kernel
example : shortest .up (twoTo 53 - 1) 2045 = ⟨17976931348623157, 292⟩ := by decide +kernel
example : shortest .up 4503599627370497 1072 = ⟨11258999068426243, -1⟩ := by decide +kernel
example : shortest .even 4503599627370497 1072 = ⟨11258999068426242, -1⟩ := by decide +kernel

end Decimal

end NumScript
