/-
Module: SafeDelete.Number.Binary64
Purpose: Double-precision numbers as exact values, and the double nearest to a decimal number.
Main exports: Binary64, Binary64.ofDecimal
-/

namespace SafeDelete

/-!
A finite double is a sign, a significand and a power of two, all of them exact integers, so that
reading and writing numbers is integer arithmetic throughout.
-/

/-- A double-precision number.  A finite one stands for `significand * 2 ^ exponent`. -/
inductive Binary64 where
  | nan
  | infinity (negative : Bool)
  | finite (negative : Bool) (significand : Nat) (exponent : Int)
  deriving Repr, DecidableEq, Inhabited

namespace Binary64

/-- A power of two. -/
def powerOfTwo (n : Nat) : Nat :=
  Nat.pow 2 n

/-- A power of ten. -/
def powerOfTen (n : Nat) : Nat :=
  Nat.pow 10 n

/-- Bits of a full significand. -/
def precision : Nat := 53

/-- The exponent of the smallest positive double. -/
def leastExponent : Int := -1074

/-- The exponent of the greatest double. -/
def greatestExponent : Int := 971

/-- The quotient of two numbers, rounded to the nearest, a tie to the even neighbour. -/
def roundedQuotient (numerator denominator : Nat) : Nat :=
  let quotient := numerator / denominator
  let twice := 2 * (numerator % denominator)
  if twice < denominator then quotient
  else if denominator < twice then quotient + 1
  else quotient + quotient % 2

/-- A ratio in units of `2 ^ exponent`, rounded. -/
def inUnits (numerator denominator : Nat) (exponent : Int) : Nat :=
  roundedQuotient (numerator * powerOfTwo (-exponent).toNat)
    (denominator * powerOfTwo exponent.toNat)

/-- The exponent at which a positive ratio has a full significand, or the least one. -/
def exponentOf (numerator denominator : Nat) : Int :=
  let guess : Int := numerator.log2 - denominator.log2 - precision
  let fits := numerator * powerOfTwo (-guess).toNat <
    powerOfTwo precision * (denominator * powerOfTwo guess.toNat)
  max leastExponent (if fits then guess else guess + 1)

/-- The double nearest to a ratio, a tie to the even significand; beyond the greatest double,
infinity. -/
def ofRatio (negative : Bool) (numerator denominator : Nat) : Binary64 :=
  if numerator = 0 then .finite negative 0 leastExponent
  else
    let exponent := exponentOf numerator denominator
    let significand := inUnits numerator denominator exponent
    let (significand, exponent) :=
      if significand = powerOfTwo precision then (powerOfTwo (precision - 1), exponent + 1)
      else (significand, exponent)
    if greatestExponent < exponent then .infinity negative
    else .finite negative significand exponent

/-- The double nearest to `digits * 10 ^ exponent`, where `count` bounds the number of decimal
digits.  Numbers far outside the range are settled by their size alone. -/
def ofDecimal (negative : Bool) (digits count : Nat) (exponent : Int) : Binary64 :=
  if digits = 0 then .finite negative 0 leastExponent
  else if exponent + count < -330 then .finite negative 0 leastExponent
  else if 310 < exponent then .infinity negative
  else ofRatio negative (digits * powerOfTen exponent.toNat) (powerOfTen (-exponent).toNat)

/-- Zero of either sign. -/
def isZero : Binary64 → Bool
  | .finite _ significand _ => significand == 0
  | _ => false

end Binary64

end SafeDelete
