/-!
# Binary64 numbers

Every number of the script language is an IEEE 754 binary64 value. This file fixes how one is held
and how a ratio of two natural numbers becomes one:

* a value is its 64 bits (`Binary64`), so that two values are the same exactly when their bits are,
  and the two zeros and the many patterns of "not a number" stay apart;
* a finite magnitude reads as `significand · 2 ^ scale` UNITS of `2 ^ (-1074)`, the distance of the
  two smallest values (`Magnitude`); measured so, every finite magnitude is a natural number;
* `ofRatio` rounds an exact quotient to the nearest value, a tie to the even significand; what is
  too large becomes infinite and what is too small becomes zero.
-/

namespace NumScript

/-! ## 1. Powers -/

/-- A power of two. -/
def twoTo (exponent : Nat) : Nat := Nat.pow 2 exponent

/-- A power of ten. -/
def tenTo (exponent : Nat) : Nat := Nat.pow 10 exponent

/-! ## 2. Values and their fields -/

/-- A binary64 value, held as its bits. -/
structure Binary64 where
  /-- The sign bit, eleven bits of exponent and 52 bits of fraction. -/
  bits : UInt64
deriving DecidableEq, Inhabited

/-- What a value is, its sign apart. -/
inductive Magnitude where
  /-- Not a number. -/
  | nan
  /-- Larger than every finite value. -/
  | infinite
  /-- The value of `significand * 2 ^ scale` units of `2 ^ (-1074)`. -/
  | finite (significand scale : Nat)
deriving DecidableEq

namespace Binary64

/-- The value with these bits, of which only the lowest 64 count. -/
def ofBits (n : Nat) : Binary64 := ⟨UInt64.ofNat n⟩

/-- The bits as a natural number. -/
def code (x : Binary64) : Nat := x.bits.toNat

/-- The sign bit: set for the negative values and for negative zero. -/
def isNegative (x : Binary64) : Bool := decide (twoTo 63 ≤ x.code)

/-- The eleven bits of the exponent. -/
def exponentField (x : Binary64) : Nat := x.code % twoTo 63 / twoTo 52

/-- The 52 bits of the fraction. -/
def fractionField (x : Binary64) : Nat := x.code % twoTo 52

/-- The magnitude: exponent 0 marks the values without the leading bit, exponent 2047 the values that
    are not finite. -/
def magnitude (x : Binary64) : Magnitude :=
  if x.exponentField = 2047 then
    if x.fractionField = 0 then .infinite else .nan
  else if x.exponentField = 0 then .finite x.fractionField 0
  else .finite (twoTo 52 + x.fractionField) (x.exponentField - 1)

/-- Positive zero. -/
def zero : Binary64 := ofBits 0

/-- The number one. -/
def one : Binary64 := ofBits (1023 * twoTo 52)

/-- Positive infinity. -/
def infinity : Binary64 := ofBits (2047 * twoTo 52)

/-! ## 3. Rounding a quotient -/

/-- The quotient of two natural numbers, rounded to the nearest one; a tie goes to the even one. -/
def roundQuotient (numerator denominator : Nat) : Nat :=
  let quotient := numerator / denominator
  let twice := 2 * (numerator % denominator)
  if twice < denominator then quotient
  else if denominator < twice then quotient + 1
  else quotient + quotient % 2

/-- The value nearest to `numerator / denominator`. The scale is the least one for which the
    significand has 53 bits or fewer; a significand that rounds up to 54 bits carries into the
    exponent by itself, because the two fields stand side by side. -/
def ofRatio (numerator denominator : Nat) : Binary64 :=
  let units := numerator * twoTo 1074
  let scale := Nat.log2 (units / denominator) - 52
  let significand := roundQuotient units (denominator * twoTo scale)
  ofBits (min (scale * twoTo 52 + significand) (2047 * twoTo 52))

/-- The number that a string of decimal digits spells. -/
def digitsValue (digits : List Char) : Nat :=
  digits.foldl (fun value digit => value * 10 + (digit.toNat - '0'.toNat)) 0

/-- The value nearest to the decimal literal `whole.fraction`. -/
def ofDecimal (whole fraction : List Char) : Binary64 :=
  ofRatio (digitsValue (whole ++ fraction)) (tenTo fraction.length)

/-! ## 4. The boundary cases -/

example : ofRatio 0 1 = zero := by decide +kernel
example : ofRatio 1 1 = one := by decide +kernel
example : ofDecimal ['0'] ['5'] = ofBits (1022 * twoTo 52) := by decide +kernel
example : ofRatio (twoTo 53 + 1) 1 = ofRatio (twoTo 53) 1 := by decide +kernel
example : ofRatio (twoTo 1024) 1 = infinity := by decide +kernel
example : ofRatio 1 (twoTo 1074) = ofBits 1 := by decide +kernel
example : ofRatio 1 (twoTo 1075) = zero := by decide +kernel

end Binary64

end NumScript
