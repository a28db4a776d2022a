import NumScript.Number.Shortest

/-!
# The written form of a number

Each output of the library has a house style for numbers. What they share is the digits, which are
always the shortest ones; where they differ is a `NumberStyle`: which decimals are written out in
full, whether a whole number keeps a point, how an exponent is written and what stands for the values
that are not finite. `NumberStyle.render` writes a value in a given style.

The POINT of a decimal is the number of its digits before the decimal point: 1 for `1.5`, 3 for
`150`, 0 for `0.15` and -1 for `0.015`.
-/

namespace NumScript

/-! ## 1. Styles -/

/-- The decisions of one written form. -/
structure NumberStyle where
  /-- The points that are written out in full; all others take an exponent. -/
  isPlain : Int → Bool
  /-- A whole number that is written in full ends in `.0`. -/
  keepsPoint : Bool
  /-- A positive exponent is written with a plus sign. -/
  signsExponent : Bool
  /-- What is written when two decimals are equally near. -/
  tie : Tie
  /-- The text of "not a number". -/
  nan : String
  /-- The text of positive infinity. -/
  infinite : String
  /-- The text of negative infinity. -/
  negativeInfinite : String

/-! ## 2. Writing a decimal -/

/-- So many zeros. -/
def zeros (count : Nat) : String := String.ofList (List.replicate count '0')

/-- The digits of a decimal as text. -/
def Decimal.text (d : Decimal) : String := String.ofList (Nat.toDigits 10 d.digits)

/-- The point of a decimal. -/
def Decimal.point (d : Decimal) : Int := (digitCount d.digits : Int) + d.exponent

/-- The digits with the decimal point at its place, filled up with zeros where it lies outside. -/
def Decimal.plain (d : Decimal) (keepsPoint : Bool) : String :=
  let tail := if keepsPoint then ".0" else ""
  if 0 ≤ d.exponent then d.text ++ zeros d.exponent.toNat ++ tail
  else if 0 < d.point then
    let digits := Nat.toDigits 10 d.digits
    let whole := d.point.toNat
    String.ofList (digits.take whole) ++ "." ++ String.ofList (digits.drop whole)
  else "0." ++ zeros (-d.point).toNat ++ d.text

/-- The digits with the decimal point after the first one, and the exponent that puts it right. -/
def Decimal.scientific (d : Decimal) (signsExponent : Bool) : String :=
  let exponent := d.point - 1
  let sign := if 0 ≤ exponent then (if signsExponent then "+" else "") else "-"
  let mantissa := match Nat.toDigits 10 d.digits with
    | [] => ""
    | [digit] => String.ofList [digit]
    | digit :: rest => String.ofList (digit :: '.' :: rest)
  mantissa ++ "e" ++ sign ++ toString exponent.natAbs

namespace NumberStyle

/-- A finite magnitude; zero is always written in full. -/
def renderFinite (style : NumberStyle) (significand scale : Nat) : String :=
  if significand = 0 then (if style.keepsPoint then "0.0" else "0")
  else
    let d := Decimal.shortest style.tie significand scale
    if style.isPlain d.point then d.plain style.keepsPoint else d.scientific style.signsExponent

/-- The written form of a value. The sign of zero is written, the sign of "not a number" is not. -/
def render (style : NumberStyle) (x : Binary64) : String :=
  match x.magnitude with
  | .nan => style.nan
  | .infinite => if x.isNegative then style.negativeInfinite else style.infinite
  | .finite significand scale =>
    (if x.isNegative then "-" else "") ++ style.renderFinite significand scale

end NumberStyle

end NumScript
