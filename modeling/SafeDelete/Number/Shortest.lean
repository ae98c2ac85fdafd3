/-
Module: SafeDelete.Number.Shortest
Purpose: The fewest decimal digits that read back as a given double.
Main exports: Decimal, Decimal.shortest
-/
import SafeDelete.Number.Binary64

namespace SafeDelete

/-- A positive decimal number `digits * 10 ^ exponent`. -/
structure Decimal where
  digits : Nat
  exponent : Int
  deriving Repr, DecidableEq

namespace Decimal

/-- How many decimal digits a number has. -/
def digitCount (n : Nat) : Nat :=
  (Nat.toDigits 10 n).length

/-- The double nearest to a decimal number. -/
def toBinary64 (d : Decimal) : Binary64 :=
  Binary64.ofDecimal false d.digits (digitCount d.digits) d.exponent

/-- The exact value of a positive double. -/
def exact (significand : Nat) (exponent : Int) : Decimal :=
  if 0 ≤ exponent then ⟨significand * Binary64.powerOfTwo exponent.toNat, 0⟩
  else ⟨significand * Nat.pow 5 (-exponent).toNat, exponent⟩

/-- The neighbours of a decimal number among those with the given number of leading digits kept,
the nearer one first, and of two equally near ones that with an even last digit. -/
def neighbours (d : Decimal) (kept : Nat) : List Decimal :=
  let dropped := digitCount d.digits - kept
  let unit := Binary64.powerOfTen dropped
  let below := d.digits / unit
  let exponent := d.exponent + dropped
  let twice := 2 * (d.digits % unit)
  let lower : Decimal := ⟨below, exponent⟩
  let upper : Decimal := ⟨below + 1, exponent⟩
  if twice < unit ∨ (twice = unit ∧ below % 2 = 0) then [lower, upper] else [upper, lower]

/-- The first of the decimals that reads back as the double. -/
def firstReading (x : Binary64) (candidates : List Decimal) : Option Decimal :=
  candidates.find? fun d => d.toBinary64 = x

/-- Digits that are enough for every double. -/
def enoughDigits : Nat := 17

/-- The shortest decimal number that reads back as the double, the nearest one of those. -/
def shortest (significand : Nat) (exponent : Int) : Decimal :=
  let value := exact significand exponent
  let x := Binary64.finite false significand exponent
  let counts := (List.range enoughDigits).map (· + 1)
  (counts.findSome? fun kept => firstReading x (neighbours value kept)).getD value

end Decimal

end SafeDelete
