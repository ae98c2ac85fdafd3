/-
Module: SafeDelete.Number.Layout
Purpose: Doubles written out: positional where the number is of moderate size, else with an
  exponent.
Main exports: NumberLayout, Binary64.render
-/
import SafeDelete.Number.Shortest
import SafeDelete.Text.Numeral

namespace SafeDelete

/-- How doubles are written. -/
structure NumberLayout where
  /-- The least power of ten of a leading digit that is written positionally. -/
  leastPositional : Int
  /-- The greatest power of ten of a leading digit that is written positionally. -/
  greatestPositional : Int
  /-- The text for a value that is not a number. -/
  notANumber : Text
  /-- The text for positive infinity. -/
  infinite : Text

namespace Binary64

/-- A sign, where the number is negative. -/
def sign (negative : Bool) : Text :=
  if negative then "-" else ""

/-- Digits with a point after the first `before` of them; zeros fill up both sides, and there is
at least one digit on each. -/
def positional (digits : Text) (before : Int) : Text :=
  if before ≤ 0 then "0." ++ List.replicate (-before).toNat '0' ++ digits
  else
    let whole := before.toNat
    if digits.length ≤ whole then
      digits ++ List.replicate (whole - digits.length) '0' ++ ".0"
    else digits.take whole ++ "." ++ digits.drop whole

/-- Digits with a point after the first one and a power of ten of at least two digits. -/
def scientific (digits : Text) (power : Int) : Text :=
  let rest := digits.drop 1
  digits.take 1 ++ (if rest.isEmpty then [] else '.' :: rest) ++
    (if power < 0 then "e-" else "e+") ++ twoDigits power.natAbs

/-- A decimal number in the given layout. -/
def layOut (layout : NumberLayout) (d : Decimal) : Text :=
  let digits := decimal d.digits
  let power := d.exponent + digits.length - 1
  if layout.leastPositional ≤ power ∧ power ≤ layout.greatestPositional then
    positional digits (power + 1)
  else scientific digits power

/-- A decimal number without the zeros at its end. -/
def withoutTrailingZeros (d : Decimal) : Decimal :=
  let zeros := ((decimal d.digits).reverse.takeWhile (· = '0')).length
  ⟨d.digits / powerOfTen zeros, d.exponent + zeros⟩

/-- A double in the given layout, with the fewest digits that read back as it. -/
def render (layout : NumberLayout) : Binary64 → Text
  | .nan => layout.notANumber
  | .infinity negative => sign negative ++ layout.infinite
  | .finite negative significand exponent =>
    sign negative ++
      if significand = 0 then ("0.0" : Text)
      else layOut layout (withoutTrailingZeros (Decimal.shortest significand exponent))

end Binary64

end SafeDelete
