/-
Module: SafeDelete.Text.Numeral
Purpose: Whole numbers written in decimal and in hexadecimal of a fixed width.
Main exports: decimal, signedDecimal, digitLimit, hexadecimal, hexDigitValue?
-/
import SafeDelete.Text.Basic

namespace SafeDelete

/-- The decimal numeral of a number, without leading zeros. -/
def decimal (n : Nat) : Text :=
  Nat.toDigits 10 n

/-- The decimal numeral of an integer, a minus sign before a negative one. -/
def signedDecimal : Int → Text
  | .ofNat n => decimal n
  | .negSucc n => '-' :: decimal (n + 1)

/-- A decimal numeral of at least two digits. -/
def twoDigits (n : Nat) : Text :=
  if n < 10 then '0' :: decimal n else decimal n

/-- The most digits that a whole number may have to be converted. -/
def digitLimit : Nat := 4300

/-- The value of a run of decimal digits. -/
def numeralValue (digits : Text) : Nat :=
  digits.foldl (fun value c => 10 * value + (c.toNat - '0'.toNat)) 0

/-- The lower-case hexadecimal digit of a number below sixteen. -/
def hexDigit (n : Nat) : Char :=
  if n < 10 then Char.ofNat ('0'.toNat + n) else Char.ofNat ('a'.toNat + (n - 10))

/-- The last `width` hexadecimal digits of a number, in lower case. -/
def hexadecimal : (width : Nat) → Nat → Text
  | 0, _ => []
  | width + 1, n => hexadecimal width (n / 16) ++ [hexDigit (n % 16)]

/-- The value of one hexadecimal digit of either case. -/
def hexDigitValue? (c : Char) : Option Nat :=
  if '0' ≤ c ∧ c ≤ '9' then some (c.toNat - '0'.toNat)
  else if 'a' ≤ c ∧ c ≤ 'f' then some (c.toNat - 'a'.toNat + 10)
  else if 'A' ≤ c ∧ c ≤ 'F' then some (c.toNat - 'A'.toNat + 10)
  else none

/-- The value of a run of hexadecimal digits, if it holds nothing else. -/
def hexValue? : Text → Option Nat
  | [] => some 0
  | digits => digits.foldlM (fun value c => (hexDigitValue? c).map (16 * value + ·)) 0

end SafeDelete
