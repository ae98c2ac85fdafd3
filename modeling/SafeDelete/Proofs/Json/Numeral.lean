/-
Module: SafeDelete.Proofs.Json.Numeral
Purpose: Numbers written in a JSON text are read back, and what is read is a number that can be
  written.
Main exports: Json.Parts, Json.readNumber?_text, Json.Parts.exists_writes_layOut,
  Json.IsWrittenAs, Json.exists_isWrittenAs_finite, Json.exists_isWrittenAs_int,
  Json.isReadable_of_readNumber?
-/
import SafeDelete.Json.Number
import SafeDelete.Proofs.Json.Readable
import SafeDelete.Proofs.Json.Strings
import SafeDelete.Proofs.Number.Decimal

namespace SafeDelete.Json

open Binary64

/-!
Every number is written as a whole part, perhaps a fraction, and perhaps an exponent.  The parts
are read back for any such text; a layout of doubles only has to say which parts it writes.
-/

/-! ## The parts of a number -/

/-- The digits of a whole part: a zero stands alone. -/
structure IsWhole (whole : Text) : Prop where
  nonempty : whole ≠ []
  digits : ∀ c ∈ whole, c.isDigit = true
  alone : whole.head? = some '0' → whole = ['0']

/-- A number as it is written, without its sign. -/
structure Parts where
  whole : Text
  fraction : Text
  /-- Whether the exponent is negative, and its digits. -/
  exponent : Option (Bool × Text)

namespace Parts

/-- A point and the digits behind it. -/
def fractionText (fraction : Text) : Text :=
  if fraction = [] then [] else '.' :: fraction

/-- The mark of an exponent, its sign and its digits. -/
def exponentText : Option (Bool × Text) → Text
  | none => []
  | some (negative, digits) => 'e' :: (if negative then '-' else '+') :: digits

/-- The text of a number. -/
def text (parts : Parts) : Text :=
  parts.whole ++ fractionText parts.fraction ++ exponentText parts.exponent

/-- The exponent as a number. -/
def power? (parts : Parts) : Option Int :=
  parts.exponent.map fun (negative, digits) =>
    if negative then -(numeralValue digits : Int) else numeralValue digits

/-- The number that is written. -/
def value (parts : Parts) : ℚ :=
  numeralValue (parts.whole ++ parts.fraction) *
    10 ^ (parts.power?.getD 0 - (parts.fraction.length : Int))

/-- The parts can stand in a text. -/
structure Proper (parts : Parts) : Prop where
  isWhole : IsWhole parts.whole
  fraction : ∀ c ∈ parts.fraction, c.isDigit = true
  exponent : ∀ negative digits, parts.exponent = some (negative, digits) →
    digits ≠ [] ∧ ∀ c ∈ digits, c.isDigit = true

/-- The number is not written as a whole one. -/
def IsFractional (parts : Parts) : Prop :=
  parts.fraction ≠ [] ∨ parts.exponent.isSome

end Parts

/-! ## Reading the parts -/

/-- A text that does not go on with a number. -/
def EndsNumber (rest : Text) : Prop :=
  ∀ c ∈ rest.head?, c.isDigit = false ∧ c ≠ '.' ∧ c ≠ 'e' ∧ c ≠ 'E'

variable {digits rest : Text}

theorem spanDigits_append (all : ∀ c ∈ digits, c.isDigit = true)
    (ends : ∀ c ∈ rest.head?, c.isDigit = false) :
    spanDigits (digits ++ rest) = (digits, rest) := by
  induction digits with
  | nil =>
      cases rest with
      | nil => rfl
      | cons c rest =>
          have other : isDigit c = false := ends c rfl
          simp [spanDigits, other]
  | cons c digits ih =>
      have digit : isDigit c = true := all c List.mem_cons_self
      have later := ih fun d mem => all d (List.mem_cons_of_mem c mem)
      simp only [spanDigits, Prod.mk.injEq] at later
      simp [spanDigits, digit, later]

theorem spanWhole_append {whole : Text} (isWhole : IsWhole whole)
    (ends : ∀ c ∈ rest.head?, c.isDigit = false) : spanWhole (whole ++ rest) = (whole, rest) := by
  by_cases zero : whole.head? = some '0'
  · rw [isWhole.alone zero]
    rfl
  · have digits := spanDigits_append isWhole.digits ends
    cases whole with
    | nil => exact absurd rfl isWhole.nonempty
    | cons c whole =>
        rw [← digits]
        unfold spanWhole
        split
        · rename_i same
          rw [List.cons_append, List.cons.injEq] at same
          exact absurd (by rw [same.1]; rfl) zero
        · rfl

theorem spanFraction_append {fraction : Text} (all : ∀ c ∈ fraction, c.isDigit = true)
    (ends : ∀ c ∈ rest.head?, c.isDigit = false ∧ c ≠ '.') :
    spanFraction (Parts.fractionText fraction ++ rest) = (fraction, rest) := by
  have span := spanDigits_append all fun c mem => (ends c mem).1
  unfold Parts.fractionText
  split
  · rename_i empty
    subst empty
    cases rest with
    | nil => rfl
    | cons c rest =>
        unfold spanFraction
        split
        · rename_i same
          exact absurd (List.cons.inj same).1 (ends c rfl).2
        · rfl
  · rename_i nonempty
    rw [List.cons_append, spanFraction, span]
    split
    · rename_i same
      exact absurd (Prod.mk.inj same).1 nonempty
    · rfl

theorem spanExponent_of_ends (ends : EndsNumber rest) : spanExponent rest = (none, rest) := by
  cases rest with
  | nil => rfl
  | cons c rest =>
      have unmarked := ends c rfl
      rw [spanExponent, if_neg]
      rintro (rfl | rfl)
      · exact unmarked.2.2.1 rfl
      · exact unmarked.2.2.2 rfl

theorem spanExponent_append {parts : Parts} (proper : parts.Proper) (ends : EndsNumber rest) :
    spanExponent (Parts.exponentText parts.exponent ++ rest) = (parts.power?, rest) := by
  unfold Parts.power?
  cases exponent : parts.exponent with
  | none => exact spanExponent_of_ends ends
  | some signed =>
      obtain ⟨negative, digits⟩ := signed
      obtain ⟨nonempty, all⟩ := proper.exponent negative digits exponent
      have span := spanDigits_append all fun c mem => (ends c mem).1
      have sign : spanSign ((if negative then '-' else '+') :: digits ++ rest) =
          (negative, digits ++ rest) := by
        cases negative <;> rfl
      rw [Parts.exponentText, List.cons_append, spanExponent, if_pos (Or.inl rfl), sign]
      dsimp only
      rw [span]
      split
      · rename_i same
        exact absurd (Prod.mk.inj same).1 nonempty
      · rename_i same
        obtain ⟨rfl, rfl⟩ := Prod.mk.inj same
        rfl

theorem spanMinus_sign (negative : Bool) {unsigned : Text} (notMinus : unsigned.head? ≠ some '-') :
    spanMinus (sign negative ++ unsigned) = (negative, unsigned) := by
  cases negative with
  | true => rfl
  | false =>
      cases unsigned with
      | nil => rfl
      | cons c unsigned =>
          change spanMinus (c :: unsigned) = _
          unfold spanMinus
          split
          · rename_i same
            exact absurd (by rw [(List.cons.inj same).1]; rfl) notMinus
          · rfl

theorem endsFraction_exponentText (exponent : Option (Bool × Text)) (ends : EndsNumber rest) :
    ∀ c ∈ (Parts.exponentText exponent ++ rest).head?, c.isDigit = false ∧ c ≠ '.' := by
  intro c mem
  cases exponent with
  | none => exact ⟨(ends c mem).1, (ends c mem).2.1⟩
  | some _ =>
      obtain rfl : 'e' = c := Option.some.inj mem
      decide

theorem endsWhole_fractionText {fraction : Text}
    (ends : ∀ c ∈ rest.head?, c.isDigit = false ∧ c ≠ '.') :
    ∀ c ∈ (Parts.fractionText fraction ++ rest).head?, c.isDigit = false := by
  intro c mem
  unfold Parts.fractionText at mem
  split at mem
  · exact (ends c mem).1
  · obtain rfl : '.' = c := Option.some.inj mem
    rfl

/-- A number that is written in parts is read in these parts. -/
theorem readNumber?_text {parts : Parts} (proper : parts.Proper) (ends : EndsNumber rest)
    (negative : Bool) :
    readNumber? (sign negative ++ parts.text ++ rest) =
      some (Numeral.of negative parts.whole parts.fraction parts.power?, rest) := by
  obtain ⟨first, whole, begins⟩ := List.exists_cons_of_ne_nil proper.isWhole.nonempty
  have digit := proper.isWhole.digits first (begins ▸ List.mem_cons_self)
  have notMinus : (parts.text ++ rest).head? ≠ some '-' := by
    intro minus
    simp only [Parts.text, begins, List.cons_append, List.head?_cons, Option.some.injEq] at minus
    exact absurd (minus ▸ digit) (by decide)
  have afterFraction := endsFraction_exponentText parts.exponent ends
  have afterWhole := @endsWhole_fractionText _ parts.fraction afterFraction
  rw [List.append_assoc, readNumber?, spanMinus_sign negative notMinus, Parts.text,
    List.append_assoc, List.append_assoc]
  dsimp only
  rw [spanWhole_append proper.isWhole afterWhole]
  split
  · rename_i same
    exact absurd (Prod.mk.inj same).1 proper.isWhole.nonempty
  · rename_i same
    obtain ⟨rfl, rfl⟩ := Prod.mk.inj same
    rw [spanFraction_append proper.fraction afterFraction]
    dsimp only
    rw [spanExponent_append proper ends]

/-! ## Writing doubles -/

namespace Parts

/-- The parts are those of a text for a number that is not written as a whole one. -/
structure Writes (parts : Parts) (text : Text) (value : ℚ) : Prop where
  proper : parts.Proper
  fractional : parts.IsFractional
  text_eq : text = parts.text
  value_eq : parts.value = value

/-- The digits of a number above zero. -/
structure AreLeading (row : Text) : Prop where
  nonempty : row ≠ []
  digits : ∀ c ∈ row, c.isDigit = true
  nonzero : row.head? ≠ some '0'

theorem areLeading_decimal {n : Nat} (nonzero : n ≠ 0) : AreLeading (decimal n) where
  nonempty := decimal_ne_nil n
  digits := fun _ => isDigit_of_mem_decimal
  nonzero := by
    obtain ⟨first, rest, eq, notZero⟩ := exists_decimal_eq_cons nonzero
    rw [eq]
    exact fun same => notZero (Option.some.inj same)

theorem isDigit_of_mem_zeros {count : Nat} {c : Char} (mem : c ∈ List.replicate count '0') :
    c.isDigit = true := by
  rw [(List.mem_replicate.mp mem).2]
  rfl

theorem AreLeading.isWhole {front back : Text} (leading : AreLeading (front ++ back))
    (nonempty : front ≠ []) (zeros : Nat) : IsWhole (front ++ List.replicate zeros '0') where
  nonempty := List.append_ne_nil_of_left_ne_nil nonempty _
  digits := by
    intro c mem
    rcases List.mem_append.mp mem with here | zero
    · exact leading.digits c (List.mem_append_left _ here)
    · exact isDigit_of_mem_zeros zero
  alone := by
    intro zero
    obtain ⟨first, rest, rfl⟩ := List.exists_cons_of_ne_nil nonempty
    exact absurd zero leading.nonzero

theorem isWhole_zero : IsWhole ['0'] :=
  ⟨by decide, List.forall_mem_singleton.mpr rfl, fun _ => rfl⟩

theorem proper_of_whole {whole fraction : Text} (isWhole : IsWhole whole)
    (all : ∀ c ∈ fraction, c.isDigit = true) : Proper ⟨whole, fraction, none⟩ :=
  ⟨isWhole, all, fun _ _ none => absurd none (by simp)⟩

theorem value_of_whole (whole fraction : Text) :
    value ⟨whole, fraction, none⟩ =
      numeralValue (whole ++ fraction) * 10 ^ (-(fraction.length : Int)) := by
  simp [value, power?]

variable {row : Text}

/-- Positional notation of a number below one. -/
theorem writes_below_one (leading : AreLeading row) {before : Int} (small : before ≤ 0) :
    Writes ⟨['0'], List.replicate (-before).toNat '0' ++ row, none⟩ (positional row before)
      (numeralValue row * 10 ^ (before - (row.length : Int))) where
  proper := by
    apply proper_of_whole isWhole_zero
    intro c mem
    rcases List.mem_append.mp mem with zero | digit
    · exact isDigit_of_mem_zeros zero
    · exact leading.digits c digit
  fractional := Or.inl (List.append_ne_nil_of_right_ne_nil _ leading.nonempty)
  text_eq := by
    simp [positional, small, text, fractionText, exponentText, leading.nonempty]
  value_eq := by
    have zeros : ((-before).toNat : Int) = -before := Int.toNat_of_nonneg (by omega)
    rw [value_of_whole, List.singleton_append, numeralValue_zero_cons, numeralValue_append,
      numeralValue_zeros, Nat.zero_mul, Nat.zero_add, List.length_append, List.length_replicate,
      Int.natCast_add, zeros]
    congr 2
    ring

/-- Positional notation of a whole number. -/
theorem writes_whole (leading : AreLeading row) {before : Int} (large : ¬ before ≤ 0)
    (long : row.length ≤ before.toNat) :
    Writes ⟨row ++ List.replicate (before.toNat - row.length) '0', ['0'], none⟩
      (positional row before) (numeralValue row * 10 ^ (before - (row.length : Int))) where
  proper := by
    have all : AreLeading (row ++ []) := by rwa [List.append_nil]
    exact proper_of_whole (all.isWhole leading.nonempty _) (List.forall_mem_singleton.mpr rfl)
  fractional := Or.inl (List.cons_ne_nil _ _)
  text_eq := by
    simp [positional, large, long, text, fractionText, exponentText]
  value_eq := by
    have zeros : before - (row.length : Int) = ((before.toNat - row.length : Nat) : Int) := by omega
    have tail : List.replicate (before.toNat - row.length) '0' ++ ['0'] =
        List.replicate (before.toNat - row.length + 1) '0' := by
      rw [List.replicate_succ']
    rw [value_of_whole, List.append_assoc, tail, numeralValue_append, numeralValue_zeros,
      Nat.add_zero, List.length_replicate, zeros, zpow_natCast, Nat.pow_succ]
    push_cast
    rw [show (-(([('0' : Char)].length : Nat) : Int)) = -1 from rfl, zpow_neg_one]
    field_simp

/-- Positional notation with the point inside of the row. -/
theorem writes_within (leading : AreLeading row) {before : Int} (large : ¬ before ≤ 0)
    (short : ¬ row.length ≤ before.toNat) :
    Writes ⟨row.take before.toNat, row.drop before.toNat, none⟩ (positional row before)
      (numeralValue row * 10 ^ (before - (row.length : Int))) where
  proper := by
    have all : AreLeading (row.take before.toNat ++ row.drop before.toNat) := by
      rwa [List.take_append_drop]
    have nonempty : row.take before.toNat ≠ [] := by
      simp only [ne_eq, List.take_eq_nil_iff, leading.nonempty, or_false]
      omega
    have isWhole := all.isWhole nonempty 0
    rw [List.replicate_zero, List.append_nil] at isWhole
    exact proper_of_whole isWhole fun c mem => leading.digits c (List.mem_of_mem_drop mem)
  fractional := by
    refine Or.inl ?_
    rw [ne_eq, List.drop_eq_nil_iff]
    exact short
  text_eq := by
    have some : row.drop before.toNat ≠ [] := by
      rw [ne_eq, List.drop_eq_nil_iff]
      exact short
    simp [positional, large, short, text, fractionText, exponentText, some]
  value_eq := by
    rw [value_of_whole, List.take_append_drop, List.length_drop]
    congr 2
    omega

/-- Positional notation moves the point of a row of digits. -/
theorem exists_writes_positional (leading : AreLeading row) (before : Int) :
    ∃ parts : Parts, parts.Writes (positional row before)
      (numeralValue row * 10 ^ (before - (row.length : Int))) := by
  by_cases small : before ≤ 0
  · exact ⟨_, writes_below_one leading small⟩
  by_cases long : row.length ≤ before.toNat
  · exact ⟨_, writes_whole leading small long⟩
  · exact ⟨_, writes_within leading small long⟩

/-- Scientific notation has one digit before the point. -/
theorem writes_scientific (leading : AreLeading row) (power : Int) :
    Writes ⟨row.take 1, row.drop 1, some (decide (power < 0), twoDigits power.natAbs)⟩
      (scientific row power) (numeralValue row * 10 ^ (power + 1 - (row.length : Int))) where
  proper := by
    have all : AreLeading (row.take 1 ++ row.drop 1) := by rwa [List.take_append_drop]
    have nonempty : row.take 1 ≠ [] := by
      simp [leading.nonempty]
    have isWhole := all.isWhole nonempty 0
    rw [List.replicate_zero, List.append_nil] at isWhole
    refine ⟨isWhole, fun c mem => leading.digits c (List.mem_of_mem_drop mem), ?_⟩
    intro negative digits same
    obtain ⟨-, rfl⟩ := Prod.mk.inj (Option.some.inj same)
    exact ⟨twoDigits_ne_nil _, fun _ => isDigit_of_mem_twoDigits⟩
  fractional := Or.inr rfl
  text_eq := by
    by_cases negative : power < 0
    · simp [scientific, negative, text, fractionText, exponentText]
    · simp [scientific, negative, text, fractionText, exponentText]
  value_eq := by
    have length := List.length_pos_of_ne_nil leading.nonempty
    have signed : (Parts.mk (row.take 1) (row.drop 1)
        (some (decide (power < 0), twoDigits power.natAbs))).power?.getD 0 = power := by
      simp only [power?, Option.map_some, Option.getD_some, numeralValue_twoDigits,
        decide_eq_true_eq]
      split <;> omega
    rw [value, signed, List.take_append_drop, List.length_drop]
    congr 2
    omega

/-- Whatever notation is chosen, the number that is written is the one to write. -/
theorem exists_writes_layOut (layout : NumberLayout) {d : Decimal} (nonzero : d.digits ≠ 0) :
    ∃ parts : Parts, parts.Writes (layOut layout d) d.value := by
  have leading := areLeading_decimal nonzero
  have same : (d.value : ℚ) = numeralValue (decimal d.digits) *
      10 ^ (d.exponent + ((decimal d.digits).length : Int) - 1 + 1 -
        ((decimal d.digits).length : Int)) := by
    rw [numeralValue_decimal, Decimal.value]
    congr 2
    ring
  unfold layOut
  dsimp only
  rw [same]
  split
  · exact exists_writes_positional leading _
  · exact ⟨_, writes_scientific leading _⟩

theorem Proper.isDigit {parts : Parts} (proper : parts.Proper) :
    ∀ c ∈ parts.whole ++ parts.fraction, c.isDigit = true := by
  intro c mem
  rcases List.mem_append.mp mem with whole | fraction
  · exact proper.isWhole.digits c whole
  · exact proper.fraction c fraction

theorem numeral_of_isFractional {parts : Parts} (fractional : parts.IsFractional)
    (negative : Bool) :
    Numeral.of negative parts.whole parts.fraction parts.power? =
      .value (.float (ofDecimal negative (numeralValue (parts.whole ++ parts.fraction))
        (parts.whole ++ parts.fraction).length
        (parts.power?.getD 0 - (parts.fraction.length : Int)))) := by
  rw [Numeral.of, if_neg]
  rintro ⟨noFraction, noExponent⟩
  rcases fractional with fraction | exponent
  · exact fraction (List.isEmpty_iff.mp noFraction)
  · simp only [power?, Option.isNone_map, Option.isNone_iff_eq_none] at noExponent
    rw [noExponent] at exponent
    contradiction

end Parts

/-! ## Reading what was written -/

/-- A number is written with this sign and these parts. -/
structure IsWrittenAs (number : Json) (negative : Bool) (parts : Parts) : Prop where
  proper : parts.Proper
  render_eq : render number = sign negative ++ parts.text
  numeral_eq : Numeral.of negative parts.whole parts.fraction parts.power? = .value number

theorem exists_isWrittenAs_finite {negative : Bool} {significand : Nat} {exponent : Int}
    (canonical : IsCanonical (.finite negative significand exponent)) :
    ∃ parts, IsWrittenAs (.float (.finite negative significand exponent)) negative parts := by
  by_cases zero : significand = 0
  · obtain rfl := zero
    obtain rfl : exponent = leastExponent := canonical.2.2.2.resolve_left (by decide)
    have fraction : ∀ c ∈ (['0'] : Text), c.isDigit = true := List.forall_mem_singleton.mpr rfl
    exact ⟨⟨['0'], ['0'], none⟩, Parts.proper_of_whole Parts.isWhole_zero fraction, rfl, rfl⟩
  · have some := Decimal.digits_withoutTrailingZeros_ne_zero
      (Decimal.digits_shortest_ne_zero canonical zero)
    obtain ⟨parts, writes⟩ := Parts.exists_writes_layOut numberLayout some
    have value : parts.value = (Decimal.shortest significand exponent).value :=
      writes.value_eq.trans (Decimal.value_withoutTrailingZeros _)
    refine ⟨parts, writes.proper, ?_, ?_⟩
    · rw [render, Binary64.render, if_neg zero, writes.text_eq]
    · rw [Parts.numeral_of_isFractional writes.fractional,
        Decimal.ofDecimal_of_value canonical zero (numeralValue_lt writes.proper.isDigit) value]

theorem isWhole_decimal (n : Nat) : IsWhole (decimal n) := by
  by_cases zero : n = 0
  · subst zero
    exact Parts.isWhole_zero
  · have leading := Parts.areLeading_decimal zero
    exact ⟨leading.nonempty, leading.digits, fun same => absurd same leading.nonzero⟩

theorem isWrittenAs_decimal {n : Nat} {number : Json} {negative : Bool}
    (short : (decimal n).length ≤ digitLimit) (written : render number = sign negative ++ decimal n)
    (same : number = .int (if negative then -(n : Int) else n)) :
    IsWrittenAs number negative ⟨decimal n, [], none⟩ where
  proper := Parts.proper_of_whole (isWhole_decimal n) (List.forall_mem_nil _)
  render_eq := by simp [written, Parts.text, Parts.fractionText, Parts.exponentText]
  numeral_eq := by
    rw [Numeral.of, if_pos ⟨rfl, rfl⟩, if_neg (Nat.not_lt.mpr short), numeralValue_decimal, same]

theorem exists_isWrittenAs_int {value : Int} (short : (decimal value.natAbs).length ≤ digitLimit) :
    ∃ negative parts, IsWrittenAs (.int value) negative parts := by
  cases value with
  | ofNat n => exact ⟨false, _, isWrittenAs_decimal short rfl rfl⟩
  | negSucc n => exact ⟨true, _, isWrittenAs_decimal short rfl rfl⟩

namespace IsWrittenAs

variable {number : Json} {negative : Bool} {parts : Parts}

/-- A number that is written is read back. -/
theorem readNumber?_eq (written : IsWrittenAs number negative parts) (ends : EndsNumber rest) :
    readNumber? (render number ++ rest) = some (.value number, rest) := by
  rw [written.render_eq, readNumber?_text written.proper ends, written.numeral_eq]

/-- A number begins with a digit behind its sign. -/
theorem exists_digit (written : IsWrittenAs number negative parts) :
    ∃ digit row, digit.isDigit = true ∧ render number = sign negative ++ digit :: row := by
  obtain ⟨digit, whole, begins⟩ := List.exists_cons_of_ne_nil written.proper.isWhole.nonempty
  refine ⟨digit, whole ++ Parts.fractionText parts.fraction ++ Parts.exponentText parts.exponent,
    written.proper.isWhole.digits digit (begins ▸ List.mem_cons_self), ?_⟩
  rw [written.render_eq, Parts.text, begins]
  rfl

theorem isPlainLine (written : IsWrittenAs number negative parts) :
    IsPlainLine (render number) := by
  have signed : IsPlainLine (sign negative) := by
    cases negative <;> decide
  have fraction : IsPlainLine (Parts.fractionText parts.fraction) := by
    unfold Parts.fractionText
    split
    · decide
    · exact isPlainLine_cons.mpr ⟨by decide, isPlainLine_of_isDigit written.proper.fraction⟩
  have exponent : IsPlainLine (Parts.exponentText parts.exponent) := by
    cases eq : parts.exponent with
    | none => decide
    | some signed =>
        have digits := isPlainLine_of_isDigit (written.proper.exponent signed.1 signed.2 eq).2
        refine isPlainLine_cons.mpr ⟨by decide, isPlainLine_cons.mpr ⟨?_, digits⟩⟩
        cases signed.1 <;> decide
  rw [written.render_eq, Parts.text]
  have whole := isPlainLine_of_isDigit written.proper.isWhole.digits
  exact isPlainLine_append.mpr ⟨signed, isPlainLine_append.mpr
    ⟨isPlainLine_append.mpr ⟨whole, fraction⟩, exponent⟩⟩

end IsWrittenAs

/-! ## What is read -/

theorem isDigit_of_spanDigits {text before after : Text}
    (span : spanDigits text = (before, after)) : ∀ c ∈ before, c.isDigit = true := by
  obtain ⟨rfl, -⟩ := Prod.mk.inj span
  exact List.all_eq_true.mp List.all_takeWhile

theorem isDigit_of_spanWhole {text before after : Text} (span : spanWhole text = (before, after)) :
    ∀ c ∈ before, c.isDigit = true := by
  unfold spanWhole at span
  split at span
  · obtain ⟨rfl, -⟩ := Prod.mk.inj span
    exact List.forall_mem_singleton.mpr rfl
  · exact isDigit_of_spanDigits span

theorem isDigit_of_spanFraction {text before after : Text}
    (span : spanFraction text = (before, after)) : ∀ c ∈ before, c.isDigit = true := by
  unfold spanFraction at span
  split at span
  · split at span
    · obtain ⟨rfl, -⟩ := Prod.mk.inj span
      exact List.forall_mem_nil _
    · exact isDigit_of_spanDigits span
  · obtain ⟨rfl, -⟩ := Prod.mk.inj span
    exact List.forall_mem_nil _

theorem isReadable_of_numeral {negative : Bool} {whole fraction : Text} {exponent : Option Int}
    {number : Json} (digits : ∀ c ∈ whole ++ fraction, c.isDigit = true)
    (numeral : Numeral.of negative whole fraction exponent = .value number) :
    number.IsReadable := by
  unfold Numeral.of at numeral
  split at numeral
  · split at numeral
    · contradiction
    · rename_i short
      injection numeral with same
      subst same
      have few := numeralValue_lt fun c mem => digits c (List.mem_append_left fraction mem)
      have size : (if negative then -(numeralValue whole : Int) else numeralValue whole).natAbs =
          numeralValue whole := by
        split <;> omega
      rw [IsReadable, size, length_decimal_le_iff (by decide)]
      exact few.trans_le (Nat.pow_le_pow_right (by decide) (Nat.not_lt.mp short))
  · injection numeral with same
    subst same
    exact isCanonical_ofDecimal (numeralValue_lt digits) _ negative

/-- A number that is read is one that can be written. -/
theorem isReadable_of_readNumber? {text after : Text} {number : Json}
    (read : readNumber? text = some (.value number, after)) : number.IsReadable := by
  unfold readNumber? at read
  dsimp only at read
  split at read
  · contradiction
  · rename_i whole afterWhole _ wholeSpan
    obtain ⟨numeral, -⟩ := Prod.mk.inj (Option.some.inj read)
    apply isReadable_of_numeral _ numeral
    intro c mem
    rcases List.mem_append.mp mem with whole | fraction
    · exact isDigit_of_spanWhole wholeSpan c whole
    · exact isDigit_of_spanFraction rfl c fraction

end SafeDelete.Json
