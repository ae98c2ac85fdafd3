/-
Module: SafeDelete.Proofs.Number.Rounding
Purpose: The double nearest to a number depends on the value of that number alone, however it is
  written, and a double is the nearest one to itself.
Main exports: Binary64.IsCanonical, Binary64.exponentOf_eq_log, Binary64.ofRatio_congr,
  Binary64.ofRatio_of_eq, Binary64.isCanonical_ofRatio
-/
import Mathlib.Data.Int.Log
import Mathlib.Data.Rat.Floor
import Mathlib.Tactic.FieldSimp
import Mathlib.Tactic.Linarith
import Mathlib.Tactic.NormNum
import Mathlib.Tactic.Positivity
import Mathlib.Tactic.Ring
import SafeDelete.Number.Binary64

namespace SafeDelete.Binary64

/-!
A ratio of natural numbers is compared with powers of two as a rational number.  Everything that
is computed from it, its exponent and its significand, is a function of that rational number.
-/

variable {numerator denominator : Nat}

/-- The doubles that reading yields: a finite one has a full significand, or else the least
exponent. -/
def IsCanonical : Binary64 → Prop
  | .nan => True
  | .infinity _ => True
  | .finite _ significand exponent =>
    significand < 2 ^ 53 ∧ leastExponent ≤ exponent ∧ exponent ≤ greatestExponent ∧
      (2 ^ 52 ≤ significand ∨ exponent = leastExponent)

/-- A power with an exponent of either sign, over the two natural powers it is computed with. -/
theorem zpow_eq_div (base : ℚ) (exponent : ℤ) :
    base ^ exponent = base ^ exponent.toNat / base ^ (-exponent).toNat := by
  rcases Int.le_total 0 exponent with up | down
  · have zero : (-exponent).toNat = 0 := by omega
    rw [zero, pow_zero, div_one, ← zpow_natCast, Int.toNat_of_nonneg up]
  · have zero : exponent.toNat = 0 := by omega
    rw [zero, pow_zero, one_div, ← zpow_natCast, Int.toNat_of_nonneg (by omega), zpow_neg, inv_inv]

/-! ## The exponent -/

theorem log_eq_of_bounds {value : ℚ} {power : ℤ} (positive : 0 < value)
    (least : (2 : ℚ) ^ power ≤ value) (most : value < (2 : ℚ) ^ (power + 1)) :
    Int.log 2 value = power := by
  have above : power ≤ Int.log 2 value :=
    (Int.zpow_le_iff_le_log (by decide) positive).mp (by exact_mod_cast least)
  have below : Int.log 2 value < power + 1 :=
    (Int.lt_zpow_iff_log_lt (by decide) positive).mp (by exact_mod_cast most)
  omega

theorem two_pow_log2_le (nonzero : numerator ≠ 0) :
    (2 : ℚ) ^ (numerator.log2 : ℤ) ≤ numerator := by
  rw [zpow_natCast]
  exact_mod_cast Nat.log2_self_le nonzero

theorem lt_two_pow_log2 (numerator : Nat) :
    (numerator : ℚ) < (2 : ℚ) ^ ((numerator.log2 : ℤ) + 1) := by
  have above : numerator < 2 ^ (numerator.log2 + 1) := Nat.lt_log2_self
  rw [show ((numerator.log2 : ℤ) + 1) = ((numerator.log2 + 1 : ℕ) : ℤ) by push_cast; rfl,
    zpow_natCast]
  exact_mod_cast above

theorem ratio_pos (nonzero : numerator ≠ 0) (proper : denominator ≠ 0) :
    (0 : ℚ) < (numerator : ℚ) / denominator := by
  have := Nat.pos_of_ne_zero nonzero
  have := Nat.pos_of_ne_zero proper
  positivity

/-- The lengths of numerator and denominator tell the logarithm of a ratio up to one. -/
theorem ratio_bounds (nonzero : numerator ≠ 0) (proper : denominator ≠ 0) :
    (2 : ℚ) ^ ((numerator.log2 : ℤ) - denominator.log2 - 1) ≤ (numerator : ℚ) / denominator ∧
      (numerator : ℚ) / denominator < (2 : ℚ) ^ ((numerator.log2 : ℤ) - denominator.log2 + 1) := by
  have positive : (0 : ℚ) < denominator := by exact_mod_cast Nat.pos_of_ne_zero proper
  constructor
  · rw [le_div_iff₀ positive]
    calc (2 : ℚ) ^ ((numerator.log2 : ℤ) - denominator.log2 - 1) * denominator
        ≤ (2 : ℚ) ^ ((numerator.log2 : ℤ) - denominator.log2 - 1) *
            (2 : ℚ) ^ ((denominator.log2 : ℤ) + 1) :=
          mul_le_mul_of_nonneg_left (lt_two_pow_log2 denominator).le (zpow_nonneg zero_le_two _)
      _ = (2 : ℚ) ^ (numerator.log2 : ℤ) := by
          rw [← zpow_add₀ two_ne_zero]
          congr 1
          ring
      _ ≤ numerator := two_pow_log2_le nonzero
  · rw [div_lt_iff₀ positive]
    calc (numerator : ℚ) < (2 : ℚ) ^ ((numerator.log2 : ℤ) + 1) := lt_two_pow_log2 numerator
      _ = (2 : ℚ) ^ ((numerator.log2 : ℤ) - denominator.log2 + 1) *
            (2 : ℚ) ^ (denominator.log2 : ℤ) := by
          rw [← zpow_add₀ two_ne_zero]
          congr 1
          ring
      _ ≤ (2 : ℚ) ^ ((numerator.log2 : ℤ) - denominator.log2 + 1) * denominator :=
          mul_le_mul_of_nonneg_left (two_pow_log2_le proper) (zpow_nonneg zero_le_two _)

/-- Comparing a ratio with a power of two in whole numbers. -/
theorem lt_zpow_iff (proper : denominator ≠ 0) (bits : Nat) (exponent : ℤ) :
    numerator * 2 ^ (-exponent).toNat < 2 ^ bits * (denominator * 2 ^ exponent.toNat) ↔
      (numerator : ℚ) / denominator < (2 : ℚ) ^ ((bits : ℤ) + exponent) := by
  have positive : (0 : ℚ) < denominator := by exact_mod_cast Nat.pos_of_ne_zero proper
  have up : (0 : ℚ) < 2 ^ (-exponent).toNat := by positivity
  rw [zpow_add₀ two_ne_zero, zpow_natCast, zpow_eq_div, div_lt_iff₀ positive,
    ← Nat.cast_lt (α := ℚ)]
  push_cast
  rw [show (2 : ℚ) ^ bits * (2 ^ exponent.toNat / 2 ^ (-exponent).toNat) * denominator =
    2 ^ bits * (denominator * 2 ^ exponent.toNat) / 2 ^ (-exponent).toNat by ring, lt_div_iff₀ up]

/-- The exponent of a ratio leaves a significand of 53 bits, unless it is the least exponent. -/
theorem exponentOf_eq_log (nonzero : numerator ≠ 0) (proper : denominator ≠ 0) :
    exponentOf numerator denominator =
      max leastExponent (Int.log 2 ((numerator : ℚ) / denominator) - 52) := by
  have positive := ratio_pos nonzero proper
  obtain ⟨least, most⟩ := ratio_bounds nonzero proper
  -- The lengths of the two numbers give a guess that is right or one too low; the comparison with
  -- the least number of 54 bits tells which.
  obtain ⟨guess, guessed⟩ :
      ∃ guess : ℤ, guess = (numerator.log2 : ℤ) - denominator.log2 - precision := ⟨_, rfl⟩
  have by_guess : exponentOf numerator denominator = max leastExponent
      (if numerator * 2 ^ (-guess).toNat < 2 ^ 53 * (denominator * 2 ^ guess.toNat) then guess
        else guess + 1) := by
    subst guessed
    rfl
  have fits := @lt_zpow_iff numerator denominator proper 53 guess
  rw [precision] at guessed
  rw [by_guess]
  congr 1
  split
  · rename_i small
    have log : Int.log 2 ((numerator : ℚ) / denominator) = guess + 52 := by
      apply log_eq_of_bounds positive
      · convert least using 2
        omega
      · convert fits.mp small using 2
        omega
    omega
  · rename_i large
    have above : (2 : ℚ) ^ (((53 : ℕ) : ℤ) + guess) ≤ numerator / denominator :=
      not_lt.mp (mt fits.mpr large)
    have log : Int.log 2 ((numerator : ℚ) / denominator) = guess + 53 := by
      apply log_eq_of_bounds positive
      · convert above using 2
        omega
      · convert most using 2
        omega
    omega

/-! ## The significand -/

theorem roundedQuotient_mul_left {factor : Nat} (nonzero : factor ≠ 0)
    (numerator denominator : Nat) :
    roundedQuotient (factor * numerator) (factor * denominator) =
      roundedQuotient numerator denominator := by
  have positive := Nat.pos_of_ne_zero nonzero
  have doubled : 2 * (factor * (numerator % denominator)) =
      factor * (2 * (numerator % denominator)) :=
    Nat.mul_left_comm _ _ _
  simp only [roundedQuotient, Nat.mul_div_mul_left _ _ positive, Nat.mul_mod_mul_left, doubled,
    Nat.mul_lt_mul_left positive]

theorem roundedQuotient_congr {numerator' denominator' : Nat} (proper : denominator ≠ 0)
    (proper' : denominator' ≠ 0) (same : numerator * denominator' = numerator' * denominator) :
    roundedQuotient numerator denominator = roundedQuotient numerator' denominator' := by
  rw [← roundedQuotient_mul_left proper' numerator denominator,
    ← roundedQuotient_mul_left proper numerator' denominator', Nat.mul_comm denominator' numerator,
    same, Nat.mul_comm numerator' denominator, Nat.mul_comm denominator' denominator]

theorem roundedQuotient_mul_right (significand : Nat) (proper : denominator ≠ 0) :
    roundedQuotient (significand * denominator) denominator = significand := by
  have positive := Nat.pos_of_ne_zero proper
  simp only [roundedQuotient, Nat.mul_div_cancel _ positive, Nat.mul_mod_left]
  rw [Nat.mul_zero, if_pos positive]

/-- A quotient is rounded to itself or to the next number. -/
theorem div_le_roundedQuotient (numerator denominator : Nat) :
    numerator / denominator ≤ roundedQuotient numerator denominator ∧
      roundedQuotient numerator denominator ≤ numerator / denominator + 1 := by
  dsimp only [roundedQuotient]
  split
  · omega
  · split <;> omega

/-! ## A ratio -/

theorem ofRatio_congr {numerator' denominator' : Nat} (proper : denominator ≠ 0)
    (proper' : denominator' ≠ 0) (same : numerator * denominator' = numerator' * denominator)
    (negative : Bool) :
    ofRatio negative numerator denominator = ofRatio negative numerator' denominator' := by
  by_cases zero : numerator = 0
  · have zero' : numerator' = 0 := by
      subst zero
      simpa [proper] using same.symm
    rw [ofRatio, ofRatio, if_pos zero, if_pos zero']
  · have nonzero' : numerator' ≠ 0 := by
      intro zero'
      subst zero'
      rw [Nat.zero_mul, Nat.mul_eq_zero] at same
      exact same.elim zero proper'
    have value : (numerator : ℚ) / denominator = (numerator' : ℚ) / denominator' := by
      rw [div_eq_div_iff (by exact_mod_cast proper) (by exact_mod_cast proper')]
      exact_mod_cast same
    have exponents : exponentOf numerator denominator = exponentOf numerator' denominator' := by
      rw [exponentOf_eq_log zero proper, exponentOf_eq_log nonzero' proper', value]
    have significands : ∀ exponent, inUnits numerator denominator exponent =
        inUnits numerator' denominator' exponent := by
      intro exponent
      apply roundedQuotient_congr
      · exact Nat.mul_ne_zero proper (Nat.pow_pos (by decide)).ne'
      · exact Nat.mul_ne_zero proper' (Nat.pow_pos (by decide)).ne'
      · rw [Nat.mul_mul_mul_comm, same, Nat.mul_mul_mul_comm]
    simp only [ofRatio, zero, nonzero', if_false, exponents, significands]

/-- The ratio of a double to one, in whole numbers. -/
theorem log_eq_of_exact {significand : Nat} {exponent : ℤ} (nonzero : significand ≠ 0)
    (proper : denominator ≠ 0)
    (exact : numerator * 2 ^ (-exponent).toNat = significand * (denominator * 2 ^ exponent.toNat)) :
    Int.log 2 ((numerator : ℚ) / denominator) = significand.log2 + exponent := by
  have up : (2 : ℚ) ^ (-exponent).toNat ≠ 0 := by positivity
  have value : (numerator : ℚ) / denominator = significand * 2 ^ exponent := by
    rw [zpow_eq_div, div_eq_iff (by exact_mod_cast proper), mul_div_assoc', div_mul_eq_mul_div,
      eq_div_iff up]
    calc (numerator : ℚ) * 2 ^ (-exponent).toNat
        = significand * (denominator * 2 ^ exponent.toNat) := by exact_mod_cast exact
      _ = significand * 2 ^ exponent.toNat * denominator := by ring
  have positive : (0 : ℚ) < significand := by exact_mod_cast Nat.pos_of_ne_zero nonzero
  have scale : (0 : ℚ) < 2 ^ exponent := zpow_pos zero_lt_two exponent
  rw [value]
  apply log_eq_of_bounds (mul_pos positive scale)
  · rw [zpow_add₀ two_ne_zero]
    exact mul_le_mul_of_nonneg_right (two_pow_log2_le nonzero) scale.le
  · rw [show (significand.log2 : ℤ) + exponent + 1 = (significand.log2 + 1) + exponent by ring,
      zpow_add₀ two_ne_zero]
    exact mul_lt_mul_of_pos_right (lt_two_pow_log2 significand) scale

/-- A double is the nearest one to itself. -/
theorem ofRatio_of_eq {significand : Nat} {exponent : ℤ} {negative : Bool}
    (canonical : IsCanonical (.finite negative significand exponent)) (nonzero : significand ≠ 0)
    (proper : denominator ≠ 0)
    (exact : numerator * 2 ^ (-exponent).toNat = significand * (denominator * 2 ^ exponent.toNat)) :
    ofRatio negative numerator denominator = .finite negative significand exponent := by
  obtain ⟨few, least, most, full⟩ := canonical
  have nonzero' : numerator ≠ 0 := by
    intro zero
    rw [zero, Nat.zero_mul, eq_comm, Nat.mul_eq_zero, Nat.mul_eq_zero] at exact
    exact exact.elim nonzero fun rest =>
      rest.elim proper fun power => absurd power (Nat.pow_pos (by decide)).ne'
  have exponents : exponentOf numerator denominator = exponent := by
    have short : significand.log2 ≤ 52 := Nat.lt_succ_iff.mp ((Nat.log2_lt nonzero).mpr few)
    rw [exponentOf_eq_log nonzero' proper, log_eq_of_exact nonzero proper exact]
    rcases full with long | lowest
    · have := (Nat.le_log2 nonzero).mpr long
      omega
    · omega
  have significands : inUnits numerator denominator exponent = significand := by
    have units : denominator * 2 ^ exponent.toNat ≠ 0 :=
      Nat.mul_ne_zero proper (Nat.pow_pos (by decide)).ne'
    calc inUnits numerator denominator exponent
        = roundedQuotient (numerator * 2 ^ (-exponent).toNat) (denominator * 2 ^ exponent.toNat) :=
          rfl
      _ = significand := by rw [exact, roundedQuotient_mul_right significand units]
  have notCarried : ¬ significand = powerOfTwo precision := few.ne
  simp only [ofRatio, nonzero', exponents, significands, notCarried, if_false, not_lt.mpr most]

/-! ## Canonical results -/

theorem lt_of_exponentOf (nonzero : numerator ≠ 0) (proper : denominator ≠ 0) :
    (numerator : ℚ) / denominator <
      (2 : ℚ) ^ (((53 : ℕ) : ℤ) + exponentOf numerator denominator) := by
  have positive := ratio_pos nonzero proper
  have log := exponentOf_eq_log nonzero proper
  have above : Int.log 2 ((numerator : ℚ) / denominator) <
      ((53 : ℕ) : ℤ) + exponentOf numerator denominator := by omega
  exact_mod_cast (Int.lt_zpow_iff_log_lt (by decide) positive).mpr above

theorem le_of_exponentOf (nonzero : numerator ≠ 0) (proper : denominator ≠ 0)
    (above : leastExponent < exponentOf numerator denominator) :
    (2 : ℚ) ^ (((52 : ℕ) : ℤ) + exponentOf numerator denominator) ≤
      (numerator : ℚ) / denominator := by
  have positive := ratio_pos nonzero proper
  have log := exponentOf_eq_log nonzero proper
  have below : ((52 : ℕ) : ℤ) + exponentOf numerator denominator ≤
      Int.log 2 ((numerator : ℚ) / denominator) := by omega
  exact_mod_cast (Int.zpow_le_iff_le_log (by decide) positive).mpr below

/-- The significand of a ratio at its exponent has 53 bits, or its rounding carries into the
next. -/
theorem inUnits_bounds (nonzero : numerator ≠ 0) (proper : denominator ≠ 0) :
    inUnits numerator denominator (exponentOf numerator denominator) ≤ 2 ^ 53 ∧
      (leastExponent < exponentOf numerator denominator →
        2 ^ 52 ≤ inUnits numerator denominator (exponentOf numerator denominator)) := by
  generalize at_exponent : exponentOf numerator denominator = exponent
  have positive : 0 < denominator * 2 ^ exponent.toNat :=
    Nat.mul_pos (Nat.pos_of_ne_zero proper) (Nat.pow_pos (by decide))
  obtain ⟨floor, ceiling⟩ := div_le_roundedQuotient (numerator * 2 ^ (-exponent).toNat)
    (denominator * 2 ^ exponent.toNat)
  constructor
  · have most := (lt_zpow_iff proper 53 exponent).mpr
      (at_exponent ▸ lt_of_exponentOf nonzero proper)
    have below := (Nat.div_lt_iff_lt_mul positive).mpr most
    exact ceiling.trans below
  · intro above
    have least := not_lt.mpr (at_exponent ▸ le_of_exponentOf nonzero proper (at_exponent ▸ above))
    have full := Nat.not_lt.mp (mt (lt_zpow_iff proper 52 exponent).mp least)
    exact ((Nat.le_div_iff_mul_le positive).mpr full).trans floor

theorem leastExponent_le_exponentOf (numerator denominator : Nat) :
    leastExponent ≤ exponentOf numerator denominator :=
  le_max_left _ _

theorem isCanonical_zero (negative : Bool) : IsCanonical (.finite negative 0 leastExponent) :=
  ⟨by decide, le_rfl, by decide, Or.inr rfl⟩

theorem isCanonical_ofRatio (proper : denominator ≠ 0) (negative : Bool) (numerator : Nat) :
    IsCanonical (ofRatio negative numerator denominator) := by
  unfold ofRatio
  split
  · exact isCanonical_zero negative
  · rename_i nonzero
    obtain ⟨most, full⟩ := inUnits_bounds nonzero proper
    have least := leastExponent_le_exponentOf numerator denominator
    dsimp only
    split
    · split
      · trivial
      · rename_i fits
        exact ⟨Nat.pow_lt_pow_right (by decide) (by decide), by omega, by omega, Or.inl le_rfl⟩
    · rename_i notCarried
      split
      · trivial
      · rename_i fits
        have few : inUnits numerator denominator (exponentOf numerator denominator) < 2 ^ 53 :=
          lt_of_le_of_ne most notCarried
        refine ⟨few, least, by omega, ?_⟩
        rcases least.lt_or_eq with above | lowest
        · exact Or.inl (full above)
        · exact Or.inr lowest.symm

end SafeDelete.Binary64
