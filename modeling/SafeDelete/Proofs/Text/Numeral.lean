/-
Module: SafeDelete.Proofs.Text.Numeral
Purpose: Numerals are made of digits and read back as the numbers that they were written for.
Main exports: numeralValue_append, numeralValue_decimal, numeralValue_lt, exists_decimal_eq_cons,
  hexValue?_hexadecimal
-/
import Mathlib.Algebra.Group.Nat.Defs
import SafeDelete.Text.Numeral

namespace SafeDelete

/-! ## Decimal numerals -/

theorem numeralValue_eq (digits : Text) : numeralValue digits = Nat.ofDigitChars 10 digits 0 :=
  Nat.ofDigitChars_eq_foldl.symm

theorem numeralValue_append (front back : Text) :
    numeralValue (front ++ back) = numeralValue front * 10 ^ back.length + numeralValue back := by
  rw [numeralValue_eq, numeralValue_eq, numeralValue_eq, Nat.ofDigitChars_append,
    Nat.ofDigitChars_eq_ofDigitChars_zero, Nat.mul_comm]

@[simp]
theorem numeralValue_zeros (count : Nat) : numeralValue (List.replicate count '0') = 0 := by
  rw [numeralValue_eq, Nat.ofDigitChars_replicate_zero, Nat.mul_zero]

@[simp]
theorem numeralValue_zero_cons (digits : Text) :
    numeralValue ('0' :: digits) = numeralValue digits := by
  rw [← List.singleton_append, numeralValue_append, show ['0'] = List.replicate 1 '0' from rfl,
    numeralValue_zeros, Nat.zero_mul, Nat.zero_add]

theorem numeralValue_decimal (n : Nat) : numeralValue (decimal n) = n := by
  rw [numeralValue_eq]
  exact Nat.ofDigitChars_ten_toDigits

theorem isDigit_of_mem_decimal {n : Nat} {c : Char} (mem : c ∈ decimal n) : c.isDigit = true :=
  Nat.isDigit_of_mem_toDigits (by decide) (by decide) mem

theorem decimal_ne_nil (n : Nat) : decimal n ≠ [] :=
  Nat.toDigits_ne_nil

theorem length_decimal_le_iff {n count : Nat} (some : 0 < count) :
    (decimal n).length ≤ count ↔ n < 10 ^ count :=
  Nat.length_toDigits_le_iff (by decide) some

theorem lt_ten_pow_length (n : Nat) : n < 10 ^ (decimal n).length :=
  (length_decimal_le_iff Nat.length_toDigits_pos).mp (Nat.le_refl _)

/-- A run of digits has less than the value of a one with as many zeros behind it. -/
theorem numeralValue_lt {digits : Text} (all : ∀ c ∈ digits, c.isDigit = true) :
    numeralValue digits < 10 ^ digits.length := by
  induction digits with
  | nil => exact Nat.one_pos
  | cons c rest ih =>
      have less := ih fun d mem => all d (List.mem_cons_of_mem c mem)
      have digit : numeralValue [c] ≤ 9 := by
        have bounds := all c List.mem_cons_self
        simp only [Char.isDigit, Bool.and_eq_true, decide_eq_true_eq] at bounds
        have most : c.toNat ≤ 57 := bounds.2
        simp only [numeralValue, List.foldl_cons, List.foldl_nil]
        change 10 * 0 + (c.toNat - 48) ≤ 9
        omega
      have scaled := Nat.mul_le_mul_right (10 ^ rest.length) digit
      rw [← List.singleton_append, numeralValue_append, List.length_append, Nat.pow_add]
      change _ < 10 * 10 ^ rest.length
      omega

theorem digitChar_ne_zero : ∀ n < 10, n ≠ 0 → n.digitChar ≠ '0' := by
  decide

/-- No numeral but that of zero begins with a zero. -/
theorem exists_decimal_eq_cons {n : Nat} (nonzero : n ≠ 0) :
    ∃ first rest, decimal n = first :: rest ∧ first ≠ '0' := by
  induction n using Nat.strongRecOn with
  | ind n ih =>
      by_cases short : n < 10
      · exact ⟨n.digitChar, [], Nat.toDigits_of_lt_base short, digitChar_ne_zero n short nonzero⟩
      · obtain ⟨first, rest, eq, notZero⟩ := ih (n / 10) (by omega) (by omega)
        refine ⟨first, rest ++ [(n % 10).digitChar], ?_, notZero⟩
        calc decimal n = decimal (n / 10) ++ [(n % 10).digitChar] :=
              Nat.toDigits_of_base_le (by decide) (by omega)
          _ = first :: (rest ++ [(n % 10).digitChar]) := by rw [eq, List.cons_append]

theorem isDigit_of_mem_twoDigits {n : Nat} {c : Char} (mem : c ∈ twoDigits n) :
    c.isDigit = true := by
  unfold twoDigits at mem
  split at mem
  · rcases List.mem_cons.mp mem with rfl | mem
    · rfl
    · exact isDigit_of_mem_decimal mem
  · exact isDigit_of_mem_decimal mem

theorem numeralValue_twoDigits (n : Nat) : numeralValue (twoDigits n) = n := by
  unfold twoDigits
  split
  · rw [numeralValue_zero_cons, numeralValue_decimal]
  · exact numeralValue_decimal n

theorem twoDigits_ne_nil (n : Nat) : twoDigits n ≠ [] := by
  unfold twoDigits
  split
  · exact List.cons_ne_nil _ _
  · exact decimal_ne_nil n

/-! ## Hexadecimal numerals -/

theorem length_hexadecimal (width n : Nat) : (hexadecimal width n).length = width := by
  induction width generalizing n with
  | zero => rfl
  | succ width ih => rw [hexadecimal, List.length_append, ih, List.length_singleton]

theorem hexDigitValue?_hexDigit {n : Nat} (few : n < 16) :
    hexDigitValue? (hexDigit n) = some n := by
  decide +revert

theorem mem_hexadecimal {width n : Nat} {c : Char} (mem : c ∈ hexadecimal width n) :
    ∃ digit < 16, c = hexDigit digit := by
  induction width generalizing n with
  | zero => exact absurd mem List.not_mem_nil
  | succ width ih =>
      rcases List.mem_append.mp mem with front | last
      · exact ih front
      · exact ⟨n % 16, Nat.mod_lt n (by decide), List.mem_singleton.mp last⟩

theorem foldlM_hexadecimal (width n : Nat) :
    (hexadecimal width n).foldlM
        (fun value c => (hexDigitValue? c).map (16 * value + ·)) 0 = some (n % 16 ^ width) := by
  induction width generalizing n with
  | zero => simp [hexadecimal, Nat.mod_one]
  | succ width ih =>
      have digit := hexDigitValue?_hexDigit (Nat.mod_lt n (by decide : 0 < 16))
      have split : 16 * (n / 16 % 16 ^ width) + n % 16 = n % 16 ^ (width + 1) := by
        rw [Nat.pow_succ, Nat.mul_comm (16 ^ width), Nat.mod_mul, Nat.add_comm]
      rw [hexadecimal, List.foldlM_append, ih]
      simp only [Option.bind_eq_bind, Option.bind_some, List.foldlM_cons, List.foldlM_nil, digit,
        Option.map_some, split, Option.pure_def]

/-- A number that fits is read back from its hexadecimal digits. -/
theorem hexValue?_hexadecimal {width n : Nat} (fits : n < 16 ^ width) :
    hexValue? (hexadecimal width n) = some n := by
  cases width with
  | zero =>
      have zero : n = 0 := by simpa using fits
      subst zero
      rfl
  | succ width =>
      have folded := foldlM_hexadecimal (width + 1) n
      rw [Nat.mod_eq_of_lt fits] at folded
      unfold hexValue?
      split
      · rename_i empty
        have := congrArg List.length empty
        simp [length_hexadecimal] at this
      · exact folded

end SafeDelete
