/-
Module: SafeDelete.Proofs.Text.Line
Purpose: The lines of a text by every convention of what ends a line, and the fields in lines.
Main exports: Text.isLineEnd, Text.lines, Text.IsPlain, Text.field?, Text.lines_append_newline,
  Text.field?_append
-/
import SafeDelete.Proofs.Text.Numeral

namespace SafeDelete

namespace Text

/-- A character that ends a line by some convention: a line feed or one of its kind, a carriage
return, a separator of information, or a separator of lines or paragraphs. -/
def isLineEnd (c : Char) : Bool :=
  let n := c.toNat
  (0x0A ≤ n && n ≤ 0x0D) || (0x1C ≤ n && n ≤ 0x1E) || n == 0x85 || n == 0x2028 || n == 0x2029

/-- The lines of a text, each without what ends it.  A carriage return with a line feed after it ends
one line. -/
def lines : Text → List Text
  | [] => []
  | '\r' :: '\n' :: rest => [] :: lines rest
  | c :: rest =>
    if isLineEnd c then [] :: lines rest
    else
      match lines rest with
      | [] => [[c]]
      | line :: later => (c :: line) :: later

/-- Nothing in the text ends a line. -/
def IsPlain (text : Text) : Prop :=
  ∀ c ∈ text, isLineEnd c = false

instance (text : Text) : Decidable (IsPlain text) :=
  List.decidableBAll _ text

/-- What stands before the first equals sign of a line, and what stands after it. -/
def field? (line : Text) : Option (Text × Text) :=
  match line.dropWhile (· ≠ '=') with
  | [] => none
  | _ :: value => some (line.takeWhile (· ≠ '='), value)

theorem isPlain_append {front back : Text} :
    IsPlain (front ++ back) ↔ IsPlain front ∧ IsPlain back :=
  List.forall_mem_append

theorem lines_cons_of_ne {c : Char} (noReturn : c ≠ '\r') (rest : Text) :
    lines (c :: rest) =
      if isLineEnd c then [] :: lines rest
      else
        match lines rest with
        | [] => [[c]]
        | line :: later => (c :: line) :: later := by
  apply lines.eq_3
  intro later same
  exact absurd same noReturn

/-- A text with nothing in it that ends a line is a line of its own before a line feed. -/
theorem lines_append_newline {line : Text} (plain : IsPlain line) (rest : Text) :
    lines (line ++ '\n' :: rest) = line :: lines rest := by
  induction line with
  | nil =>
      rw [List.nil_append, lines_cons_of_ne (by decide)]
      exact if_pos (by decide)
  | cons c line ih =>
      obtain ⟨first, later⟩ := List.forall_mem_cons.mp plain
      have noReturn : c ≠ '\r' := by
        rintro rfl
        exact absurd first (by decide)
      rw [List.cons_append, lines_cons_of_ne noReturn, if_neg (Bool.eq_false_iff.mp first),
        ih later]

theorem field?_append {key : Text} (free : '=' ∉ key) (value : Text) :
    field? (key ++ '=' :: value) = some (key, value) := by
  have other : ∀ c ∈ key, decide (c ≠ '=') = true := fun c mem =>
    decide_eq_true fun same => free (same ▸ mem)
  have stops : decide ('=' ≠ '=') = false := rfl
  rw [field?, List.dropWhile_append_of_pos other, List.takeWhile_append_of_pos other]
  simp only [List.dropWhile_cons, List.takeWhile_cons, stops]
  simp

theorem isPlain_of_isDigit {text : Text} (digits : ∀ c ∈ text, c.isDigit = true) :
    IsPlain text := by
  intro c mem
  have digit := digits c mem
  simp only [Char.isDigit, Bool.and_eq_true, decide_eq_true_eq, UInt32.le_iff_toNat_le] at digit
  obtain ⟨least, most⟩ := digit
  have low : 48 ≤ c.toNat := least
  have high : c.toNat ≤ 57 := most
  simp only [isLineEnd, Bool.or_eq_false_iff, Bool.and_eq_false_iff, decide_eq_false_iff_not,
    beq_eq_false_iff_ne]
  omega

end Text

theorem isPlain_signedDecimal (year : Int) : Text.IsPlain (signedDecimal year) := by
  cases year with
  | ofNat n => exact Text.isPlain_of_isDigit fun _ => isDigit_of_mem_decimal
  | negSucc n =>
      rw [signedDecimal, Text.IsPlain, List.forall_mem_cons]
      exact ⟨by decide, Text.isPlain_of_isDigit fun _ => isDigit_of_mem_decimal⟩

theorem isPlain_twoDigits (n : Nat) : Text.IsPlain (twoDigits n) :=
  Text.isPlain_of_isDigit fun _ => isDigit_of_mem_twoDigits

end SafeDelete
