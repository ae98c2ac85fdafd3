/-
Module: SafeDelete.Json.Number
Purpose: Numbers at the front of a JSON text.
Main exports: Json.readNumber?
-/
import SafeDelete.Json.Fault
import SafeDelete.Json.Value

namespace SafeDelete.Json

/-- A decimal digit. -/
def isDigit (c : Char) : Bool :=
  '0' ≤ c && c ≤ '9'

/-- The digits at the front, and what follows them. -/
def spanDigits (text : Text) : Text × Text :=
  (text.takeWhile isDigit, text.dropWhile isDigit)

/-- A minus sign at the front. -/
def spanMinus : Text → Bool × Text
  | '-' :: rest => (true, rest)
  | text => (false, text)

/-- The whole part of a number: a zero stands alone. -/
def spanWhole : Text → Text × Text
  | '0' :: rest => (['0'], rest)
  | text => spanDigits text

/-- The digits of a fraction; a point without a digit after it is none. -/
def spanFraction : Text → Text × Text
  | '.' :: rest =>
    match spanDigits rest with
    | ([], _) => ([], '.' :: rest)
    | found => found
  | text => ([], text)

/-- The sign of an exponent: whether it is a minus. -/
def spanSign : Text → Bool × Text
  | '-' :: rest => (true, rest)
  | '+' :: rest => (false, rest)
  | text => (false, text)

/-- An exponent; the mark without a digit after it is none. -/
def spanExponent : Text → Option Int × Text
  | [] => (none, [])
  | mark :: rest =>
    if mark = 'e' ∨ mark = 'E' then
      let (negative, unsigned) := spanSign rest
      match spanDigits unsigned with
      | ([], _) => (none, mark :: rest)
      | (digits, after) =>
        let size : Int := numeralValue digits
        (some (if negative then -size else size), after)
    else (none, mark :: rest)

/-- A number, or a whole number that is too long. -/
inductive Numeral where
  | value (number : Json)
  | oversized (digits : Nat)

/-- The number that a sign, the digits of whole part and fraction, and an exponent denote; without
fraction and exponent it is whole. -/
def Numeral.of (negative : Bool) (whole fraction : Text) (exponent : Option Int) : Numeral :=
  if fraction.isEmpty ∧ exponent.isNone then
    if digitLimit < whole.length then .oversized whole.length
    else
      let size : Int := numeralValue whole
      .value (.int (if negative then -size else size))
  else
    let digits := whole ++ fraction
    .value (.float (Binary64.ofDecimal negative (numeralValue digits) digits.length
      (exponent.getD 0 - fraction.length)))

/-- The number at the front of a text and what follows it. -/
def readNumber? (text : Text) : Option (Numeral × Text) :=
  let (negative, unsigned) := spanMinus text
  match spanWhole unsigned with
  | ([], _) => none
  | (whole, afterWhole) =>
    let (fraction, afterFraction) := spanFraction afterWhole
    let (exponent, rest) := spanExponent afterFraction
    some (Numeral.of negative whole fraction exponent, rest)

end SafeDelete.Json
