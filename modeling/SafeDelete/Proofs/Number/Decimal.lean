/-
Module: SafeDelete.Proofs.Number.Decimal
Purpose: What a decimal number reads as depends on its value alone, and the shortest digits of a
  double read back as that double.
Main exports: Binary64.ofDecimal_eq_ofRatio, Binary64.ofDecimal_congr,
  Binary64.isCanonical_ofDecimal, Decimal.toBinary64_shortest, Decimal.value_withoutTrailingZeros,
  Decimal.ofDecimal_of_value
-/
import SafeDelete.Number.Layout
import SafeDelete.Proofs.Number.Rounding
import SafeDelete.Proofs.Text.Numeral

namespace SafeDelete

namespace Binary64

/-!
A decimal number far outside the range of the doubles is settled by its size, so that no huge power
is computed.  The two shortcuts are shown to agree with rounding; from then on only the value
counts.
-/

variable {numerator denominator : Nat}

theorem powerOfTwo_eq (bits : Nat) : powerOfTwo bits = 2 ^ bits :=
  rfl

theorem roundedQuotient_of_small (small : 2 * numerator < denominator) :
    roundedQuotient numerator denominator = 0 := by
  have less : numerator < denominator := by omega
  simp only [roundedQuotient, Nat.div_eq_of_lt less, Nat.mod_eq_of_lt less, if_pos small]

/-- What is below half of the smallest double is rounded to zero. -/
theorem ofRatio_of_tiny (tiny : 2 * (numerator * 2 ^ 1074) < denominator) (negative : Bool) :
    ofRatio negative numerator denominator = .finite negative 0 leastExponent := by
  by_cases zero : numerator = 0
  · rw [ofRatio, if_pos zero]
  · have proper : denominator ≠ 0 := Nat.ne_zero_of_lt tiny
    have exponents : exponentOf numerator denominator = leastExponent := by
      have below : (numerator : ℚ) / denominator < (2 : ℚ) ^ (-1074 : ℤ) := by
        have scaled := (@lt_zpow_iff numerator denominator proper 0 (-1074)).mp
        rw [show (-(-1074 : ℤ)).toNat = 1074 from rfl, show (-1074 : ℤ).toNat = 0 from rfl,
          Nat.pow_zero, Nat.one_mul, Nat.mul_one, Int.natCast_zero, zero_add] at scaled
        exact scaled (Nat.lt_of_le_of_lt (Nat.le_mul_of_pos_left _ (by decide)) tiny)
      have log : Int.log 2 ((numerator : ℚ) / denominator) < -1074 :=
        (Int.lt_zpow_iff_log_lt (by decide) (ratio_pos zero proper)).mp (by exact_mod_cast below)
      rw [exponentOf_eq_log zero proper, leastExponent]
      omega
    have significands : inUnits numerator denominator leastExponent = 0 := by
      have down : (-leastExponent).toNat = 1074 := rfl
      have up : leastExponent.toNat = 0 := rfl
      rw [inUnits, down, up]
      apply roundedQuotient_of_small
      rw [show powerOfTwo 0 = 1 from rfl, Nat.mul_one, powerOfTwo_eq]
      exact tiny
    have notCarried : ¬ (0 : ℕ) = powerOfTwo precision := (Nat.pow_pos (by decide)).ne
    have notAbove : ¬ greatestExponent < leastExponent := by decide
    simp only [ofRatio, zero, exponents, significands, notCarried, notAbove, if_false]

/-- What has a bit above those of the greatest double is infinite. -/
theorem ofRatio_of_huge (proper : denominator ≠ 0) (huge : denominator * 2 ^ 1024 ≤ numerator)
    (negative : Bool) : ofRatio negative numerator denominator = .infinity negative := by
  have nonzero : numerator ≠ 0 :=
    have positive := Nat.mul_pos (Nat.pos_of_ne_zero proper) (Nat.pow_pos (by decide))
    (Nat.lt_of_lt_of_le positive huge).ne'
  have exponents : greatestExponent < exponentOf numerator denominator := by
    have above : (2 : ℚ) ^ (1024 : ℤ) ≤ (numerator : ℚ) / denominator := by
      have positive : (0 : ℚ) < denominator := by exact_mod_cast Nat.pos_of_ne_zero proper
      rw [le_div_iff₀ positive, mul_comm]
      exact_mod_cast huge
    have log : 1024 ≤ Int.log 2 ((numerator : ℚ) / denominator) :=
      (Int.zpow_le_iff_le_log (by decide) (ratio_pos nonzero proper)).mp (by exact_mod_cast above)
    rw [exponentOf_eq_log nonzero proper, greatestExponent]
    omega
  have carried : greatestExponent < exponentOf numerator denominator + 1 := by omega
  unfold ofRatio
  dsimp only
  rw [if_neg nonzero]
  by_cases full : inUnits numerator denominator (exponentOf numerator denominator) =
      powerOfTwo precision
  · rw [if_pos full]
    exact if_pos carried
  · rw [if_neg full]
    exact if_pos exponents

/-- The shortcuts for numbers far outside the range change nothing. -/
theorem ofDecimal_eq_ofRatio {digits count : Nat} (bound : digits < 10 ^ count) (exponent : ℤ)
    (negative : Bool) :
    ofDecimal negative digits count exponent =
      ofRatio negative (digits * 10 ^ exponent.toNat) (10 ^ (-exponent).toNat) := by
  unfold ofDecimal
  by_cases zero : digits = 0
  · rw [if_pos zero, zero, Nat.zero_mul, ofRatio, if_pos rfl]
  rw [if_neg zero]
  -- Both shortcuts are for numbers whose ratio would round to zero or to infinity as well.
  by_cases tiny : exponent + count < -330
  · rw [if_pos tiny]
    have whole : exponent.toNat = 0 := by omega
    symm
    apply ofRatio_of_tiny
    rw [whole, Nat.pow_zero, Nat.mul_one]
    calc 2 * (digits * 2 ^ 1074) = digits * (2 * 2 ^ 1074) := Nat.mul_left_comm _ _ _
      _ < 10 ^ count * 10 ^ 331 :=
          Nat.mul_lt_mul_of_lt_of_le bound (by decide +kernel) (Nat.pow_pos (by decide))
      _ = 10 ^ (count + 331) := (Nat.pow_add 10 count 331).symm
      _ ≤ 10 ^ (-exponent).toNat := Nat.pow_le_pow_right (by decide) (by omega)
  rw [if_neg tiny]
  by_cases huge : 310 < exponent
  · rw [if_pos huge]
    have whole : (-exponent).toNat = 0 := by omega
    symm
    apply ofRatio_of_huge (Nat.pow_pos (by decide)).ne'
    rw [whole, Nat.pow_zero, Nat.one_mul]
    calc 2 ^ 1024 ≤ 10 ^ 311 := by decide +kernel
      _ ≤ 10 ^ exponent.toNat := Nat.pow_le_pow_right (by decide) (by omega)
      _ ≤ digits * 10 ^ exponent.toNat := Nat.le_mul_of_pos_left _ (Nat.pos_of_ne_zero zero)
  · rw [if_neg huge]
    rfl

theorem isCanonical_ofDecimal {digits count : Nat} (bound : digits < 10 ^ count) (exponent : ℤ)
    (negative : Bool) : IsCanonical (ofDecimal negative digits count exponent) := by
  rw [ofDecimal_eq_ofRatio bound]
  exact isCanonical_ofRatio (Nat.pow_pos (by decide)).ne' negative _

/-- Decimal numbers of one value read as one double. -/
theorem ofDecimal_congr {digits digits' count count' : Nat} {exponent exponent' : ℤ}
    (bound : digits < 10 ^ count) (bound' : digits' < 10 ^ count')
    (same : (digits : ℚ) * 10 ^ exponent = digits' * 10 ^ exponent') (negative : Bool) :
    ofDecimal negative digits count exponent = ofDecimal negative digits' count' exponent' := by
  have up : (10 : ℚ) ^ (-exponent).toNat ≠ 0 := by positivity
  have up' : (10 : ℚ) ^ (-exponent').toNat ≠ 0 := by positivity
  rw [zpow_eq_div, zpow_eq_div, mul_div_assoc', mul_div_assoc', div_eq_div_iff up up'] at same
  rw [ofDecimal_eq_ofRatio bound, ofDecimal_eq_ofRatio bound']
  apply ofRatio_congr (Nat.pow_pos (by decide)).ne' (Nat.pow_pos (by decide)).ne'
  exact_mod_cast same

/-- The same double with the given sign. -/
def withSign (negative : Bool) : Binary64 → Binary64
  | .nan => .nan
  | .infinity _ => .infinity negative
  | .finite _ significand exponent => .finite negative significand exponent

theorem withSign_ofRatio (negative : Bool) (numerator denominator : Nat) :
    (ofRatio false numerator denominator).withSign negative =
      ofRatio negative numerator denominator := by
  unfold ofRatio
  dsimp only
  split
  · rfl
  · split <;> split <;> rfl

end Binary64

namespace Decimal

open Binary64

theorem lt_ten_pow_digitCount (n : Nat) : n < 10 ^ digitCount n :=
  lt_ten_pow_length n

/-- The exact decimal value of a double reads back as it. -/
theorem toBinary64_exact {significand : Nat} {exponent : ℤ}
    (canonical : IsCanonical (.finite false significand exponent)) (nonzero : significand ≠ 0) :
    (exact significand exponent).toBinary64 = .finite false significand exponent := by
  unfold toBinary64
  rw [ofDecimal_eq_ofRatio (lt_ten_pow_digitCount _)]
  unfold exact
  split
  · rename_i whole
    have down : (-exponent).toNat = 0 := by omega
    apply ofRatio_of_eq canonical nonzero (Nat.pow_pos (by decide)).ne'
    simp [powerOfTwo, down]
  · rename_i fraction
    have up : exponent.toNat = 0 := by omega
    apply ofRatio_of_eq canonical nonzero (Nat.pow_pos (by decide)).ne'
    simp only [up, Nat.pow_zero, Nat.mul_one, Nat.pow_eq]
    rw [Nat.mul_assoc, ← Nat.mul_pow]

/-- The shortest digits of a double read back as it. -/
theorem toBinary64_shortest {significand : Nat} {exponent : ℤ}
    (canonical : IsCanonical (.finite false significand exponent)) (nonzero : significand ≠ 0) :
    (shortest significand exponent).toBinary64 = .finite false significand exponent := by
  unfold shortest
  dsimp only
  generalize candidates : List.findSome? _ _ = found
  cases found with
  | none => exact toBinary64_exact canonical nonzero
  | some d =>
      obtain ⟨kept, -, reading⟩ := List.exists_of_findSome?_eq_some candidates
      have reads := List.find?_some reading
      exact of_decide_eq_true reads

/-- The number that a decimal number stands for. -/
def value (d : Decimal) : ℚ :=
  d.digits * 10 ^ d.exponent

/-- Trailing zeros are a power of ten. -/
theorem value_withoutTrailingZeros (d : Decimal) : (withoutTrailingZeros d).value = d.value := by
  unfold withoutTrailingZeros
  generalize counted : ((decimal d.digits).reverse.takeWhile (· = '0')).length = zeros
  have divisible : d.digits / 10 ^ zeros * 10 ^ zeros = d.digits := by
    have zeroes : (decimal d.digits).reverse.takeWhile (· = '0') = List.replicate zeros '0' := by
      refine List.eq_replicate_iff.mpr ⟨counted, fun c mem => ?_⟩
      exact of_decide_eq_true (List.all_eq_true.mp List.all_takeWhile c mem)
    have parts : decimal d.digits =
        ((decimal d.digits).reverse.dropWhile (· = '0')).reverse ++ List.replicate zeros '0' := by
      rw [← List.reverse_replicate, ← zeroes, ← List.reverse_append,
        List.takeWhile_append_dropWhile, List.reverse_reverse]
    have front := numeralValue_decimal d.digits
    rw [parts, numeralValue_append, numeralValue_zeros, Nat.add_zero,
      List.length_replicate] at front
    rw [← front, Nat.mul_div_cancel _ (Nat.pow_pos (by decide))]
  have ten : (10 : ℚ) ≠ 0 := by norm_num
  calc ((d.digits / 10 ^ zeros : ℕ) : ℚ) * 10 ^ (d.exponent + zeros)
      = ((d.digits / 10 ^ zeros * 10 ^ zeros : ℕ) : ℚ) * 10 ^ d.exponent := by
        rw [zpow_add₀ ten, zpow_natCast]
        push_cast
        ring
    _ = d.value := by rw [divisible, value]

/-- Whatever has the value of the shortest digits of a double reads as that double. -/
theorem ofDecimal_of_value {negative : Bool} {significand digits count : Nat} {exponent power : ℤ}
    (canonical : IsCanonical (.finite negative significand exponent)) (nonzero : significand ≠ 0)
    (bound : digits < 10 ^ count)
    (same : (digits : ℚ) * 10 ^ power = (shortest significand exponent).value) :
    ofDecimal negative digits count power = .finite negative significand exponent := by
  have unsigned : ofDecimal false digits count power = .finite false significand exponent := by
    rw [ofDecimal_congr bound (lt_ten_pow_digitCount _) same]
    exact toBinary64_shortest canonical nonzero
  rw [ofDecimal_eq_ofRatio bound] at unsigned ⊢
  rw [← withSign_ofRatio, unsigned]
  rfl

theorem digits_withoutTrailingZeros_ne_zero {d : Decimal} (nonzero : d.digits ≠ 0) :
    (withoutTrailingZeros d).digits ≠ 0 := by
  have same := value_withoutTrailingZeros d
  have scale : (10 : ℚ) ^ d.exponent ≠ 0 := zpow_ne_zero _ (by norm_num)
  intro zero
  rw [value, zero, Nat.cast_zero, zero_mul, value, eq_comm, mul_eq_zero] at same
  exact same.elim (fun digits => nonzero (by exact_mod_cast digits)) scale

theorem digits_shortest_ne_zero {significand : Nat} {exponent : ℤ}
    (canonical : IsCanonical (.finite false significand exponent)) (nonzero : significand ≠ 0) :
    (shortest significand exponent).digits ≠ 0 := by
  intro zero
  have reads := toBinary64_shortest canonical nonzero
  rw [toBinary64, zero, ofDecimal, if_pos rfl] at reads
  injection reads with _ same
  exact nonzero same.symm

end Decimal

end SafeDelete
