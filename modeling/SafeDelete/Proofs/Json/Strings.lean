/-
Module: SafeDelete.Proofs.Json.Strings
Purpose: Every text is written as a string of printed ASCII characters, and read back from it.
Main exports: Json.IsPlainLine, Json.isPlainLine_renderString, Json.IsBody,
  Json.isBody_flatMap_renderChar, Json.readString_written
-/
import SafeDelete.Json.Parser
import SafeDelete.Json.Printer
import SafeDelete.Proofs.Text.Numeral

namespace SafeDelete.Json

/-!
A character is written as itself, as a short escape, or as one or two numbered escapes.  What comes
of it in reading are the parts below; joined, they are the character again, whatever stands behind.
-/

/-! ## Printed characters -/

/-- A text of printed ASCII characters, without a line break. -/
def IsPlainLine (line : Text) : Prop :=
  ∀ c ∈ line, 0x20 ≤ c.toNat ∧ c.toNat ≤ 0x7E

instance (line : Text) : Decidable (IsPlainLine line) :=
  List.decidableBAll _ line

theorem isPlainLine_append {front back : Text} :
    IsPlainLine (front ++ back) ↔ IsPlainLine front ∧ IsPlainLine back :=
  List.forall_mem_append

theorem isPlainLine_cons {c : Char} {line : Text} :
    IsPlainLine (c :: line) ↔ (0x20 ≤ c.toNat ∧ c.toNat ≤ 0x7E) ∧ IsPlainLine line :=
  List.forall_mem_cons

theorem isPlainLine_of_isDigit {digits : Text} (all : ∀ c ∈ digits, c.isDigit = true) :
    IsPlainLine digits := by
  intro c mem
  have bounds := all c mem
  simp only [Char.isDigit, Bool.and_eq_true, decide_eq_true_eq] at bounds
  have least : 48 ≤ c.toNat := bounds.1
  have most : c.toNat ≤ 57 := bounds.2
  omega

/-! ## Characters as they are written -/

/-- The characters with a short escape. -/
def shortened : List Char := ['"', '\\', '\n', '\r', '\t', '\x0c', '\x08']

theorem renderChar_of_not_mem {c : Char} (long : c ∉ shortened) :
    renderChar c =
      if 0x20 ≤ c.toNat ∧ c.toNat ≤ 0x7E then [c]
      else if c.toNat ≤ 0xFFFF then unicodeEscape c.toNat
      else unicodeEscape (0xD800 + (c.toNat - 0x10000) / 0x400) ++
        unicodeEscape (0xDC00 + (c.toNat - 0x10000) % 0x400) := by
  simp only [shortened, List.mem_cons, List.not_mem_nil, or_false, not_or] at long
  simp only [renderChar, long, if_false]

theorem hexDigit_bounds : ∀ n < 16, 0x20 ≤ (hexDigit n).toNat ∧ (hexDigit n).toNat ≤ 0x7E := by
  decide

theorem isPlainLine_unicodeEscape (unit : Nat) : IsPlainLine (unicodeEscape unit) := by
  refine isPlainLine_append.mpr ⟨by decide, fun c mem => ?_⟩
  obtain ⟨digit, few, rfl⟩ := mem_hexadecimal mem
  exact hexDigit_bounds digit few

theorem isPlainLine_short {c : Char} (short : c ∈ shortened) : IsPlainLine (renderChar c) := by
  simp only [shortened, List.mem_cons, List.not_mem_nil, or_false] at short
  rcases short with rfl | rfl | rfl | rfl | rfl | rfl | rfl
  all_goals decide

theorem isPlainLine_renderChar (c : Char) : IsPlainLine (renderChar c) := by
  by_cases short : c ∈ shortened
  · exact isPlainLine_short short
  rw [renderChar_of_not_mem short]
  split
  · rename_i printed
    intro d mem
    obtain rfl := List.mem_singleton.mp mem
    exact printed
  · split
    · exact isPlainLine_unicodeEscape _
    · exact isPlainLine_append.mpr ⟨isPlainLine_unicodeEscape _, isPlainLine_unicodeEscape _⟩

theorem isPlainLine_renderString (text : Text) : IsPlainLine (renderString text) := by
  have quote : IsPlainLine ['"'] := by decide
  refine isPlainLine_append.mpr ⟨isPlainLine_cons.mpr ⟨by decide, ?_⟩, quote⟩
  intro c mem
  obtain ⟨source, -, written⟩ := List.mem_flatMap.mp mem
  exact isPlainLine_renderChar source c written

/-! ## Between the quotes -/

/-- The characters that stand behind a backslash in a written string. -/
def escapeLetters : List Char := ['"', '\\', 'n', 'r', 't', 'f', 'b', 'u']

/-- A text as it is written between quotes: escapes, and characters other than the quote and the
backslash. -/
inductive IsBody : Text → Prop
  | nil : IsBody []
  | plain {c : Char} {rest : Text} (notQuote : c ≠ '"') (notEscape : c ≠ '\\')
      (later : IsBody rest) : IsBody (c :: rest)
  | escape {letter : Char} {rest : Text} (known : letter ∈ escapeLetters) (later : IsBody rest) :
      IsBody ('\\' :: letter :: rest)

theorem IsBody.append {front back : Text} (bodyFront : IsBody front) (bodyBack : IsBody back) :
    IsBody (front ++ back) := by
  induction bodyFront with
  | nil => exact bodyBack
  | plain notQuote notEscape _ ih => exact .plain notQuote notEscape ih
  | escape known _ ih => exact .escape known ih

theorem isBody_of_forall_ne {text : Text} (plain : ∀ c ∈ text, c ≠ '"' ∧ c ≠ '\\') :
    IsBody text := by
  induction text with
  | nil => exact .nil
  | cons c rest ih =>
      obtain ⟨notQuote, notEscape⟩ := plain c List.mem_cons_self
      exact .plain notQuote notEscape (ih fun d mem => plain d (List.mem_cons_of_mem _ mem))

theorem isBody_unicodeEscape (unit : Nat) : IsBody (unicodeEscape unit) := by
  have plain : ∀ n < 16, hexDigit n ≠ '"' ∧ hexDigit n ≠ '\\' := by decide
  refine .escape (by decide) (isBody_of_forall_ne fun c mem => ?_)
  obtain ⟨digit, few, rfl⟩ := mem_hexadecimal mem
  exact plain digit few

theorem isBody_short {c : Char} (short : c ∈ shortened) : IsBody (renderChar c) := by
  simp only [shortened, List.mem_cons, List.not_mem_nil, or_false] at short
  rcases short with rfl | rfl | rfl | rfl | rfl | rfl | rfl
  all_goals exact .escape (by decide) .nil

theorem isBody_renderChar (c : Char) : IsBody (renderChar c) := by
  by_cases short : c ∈ shortened
  · exact isBody_short short
  rw [renderChar_of_not_mem short]
  split
  · have notQuote : c ≠ '"' := fun same => short (same ▸ by decide)
    have notEscape : c ≠ '\\' := fun same => short (same ▸ by decide)
    exact .plain notQuote notEscape .nil
  · split
    · exact isBody_unicodeEscape _
    · exact (isBody_unicodeEscape _).append (isBody_unicodeEscape _)

theorem isBody_flatMap_renderChar (text : Text) : IsBody (text.flatMap renderChar) := by
  induction text with
  | nil => exact .nil
  | cons c text ih =>
      rw [List.flatMap_cons]
      exact (isBody_renderChar c).append ih

/-! ## Reading one character -/

/-- What is read for a character that was written. -/
def partsOf (c : Char) : List StringPart :=
  if c ∈ shortened then [.char c]
  else if 0x20 ≤ c.toNat ∧ c.toNat ≤ 0x7E then [.char c]
  else if c.toNat ≤ 0xFFFF then [.unit c.toNat]
  else [.unit (0xD800 + (c.toNat - 0x10000) / 0x400), .unit (0xDC00 + (c.toNat - 0x10000) % 0x400)]

variable {opened rest : Text} {next : Char}

theorem readParts_unicodeEscape {unit : Nat} (fits : unit < 0x10000) :
    readParts opened (unicodeEscape unit ++ next :: rest) =
      prepend (.unit unit) (readParts opened (next :: rest)) := by
  have value := @hexValue?_hexadecimal 4 unit fits
  have length := length_hexadecimal 4 unit
  unfold unicodeEscape
  generalize hexadecimal 4 unit = row at value length
  match row, length with
  | [a, b, c, d], _ =>
      change readParts opened ('\\' :: 'u' :: a :: b :: c :: d :: next :: rest) = _
      rw [readParts, value]

theorem readParts_short {c : Char} (short : c ∈ shortened) :
    readParts opened (renderChar c ++ next :: rest) =
      prepend (.char c) (readParts opened (next :: rest)) := by
  simp only [shortened, List.mem_cons, List.not_mem_nil, or_false] at short
  rcases short with rfl | rfl | rfl | rfl | rfl | rfl | rfl
  all_goals rfl

theorem readParts_plain {c : Char} (long : c ∉ shortened) (printed : 0x20 ≤ c.toNat) :
    readParts opened (c :: next :: rest) = prepend (.char c) (readParts opened (next :: rest)) := by
  have notQuote : c ≠ '"' := fun same => long (same ▸ by decide)
  have notEscape : c ≠ '\\' := fun same => long (same ▸ by decide)
  rw [readParts]
  · rw [if_neg (by omega)]
  all_goals simp [notQuote, notEscape]

/-- A character that was written is read as its parts. -/
theorem readParts_renderChar (c : Char) :
    readParts opened (renderChar c ++ next :: rest) =
      (partsOf c).foldr prepend (readParts opened (next :: rest)) := by
  have scalar : c.toNat < 0xD800 ∨ (0xDFFF < c.toNat ∧ c.toNat < 0x110000) := c.valid
  by_cases short : c ∈ shortened
  · rw [readParts_short short, partsOf, if_pos short]
    rfl
  rw [renderChar_of_not_mem short, partsOf, if_neg short]
  split
  · rename_i printed
    exact readParts_plain short printed.1
  · split
    · exact readParts_unicodeEscape (by omega)
    · -- An escape is complete only with something behind it: for the first of the two escapes
      -- that is the second one.
      obtain ⟨first, row, eq⟩ : ∃ first row,
          unicodeEscape (0xDC00 + (c.toNat - 0x10000) % 0x400) = first :: row := ⟨_, _, rfl⟩
      rw [List.append_assoc, eq, List.cons_append, readParts_unicodeEscape (by omega),
        ← List.cons_append, ← eq, readParts_unicodeEscape (by omega)]
      rfl

/-! ## Joining the parts -/

theorem joinParts_unit {unit : Nat} (notHigh : isHighSurrogate unit = false)
    (parts : List StringPart) :
    joinParts (.unit unit :: parts) = charOfUnit unit :: joinParts parts := by
  match parts with
  | [] => rfl
  | .char _ :: _ => rfl
  | .unit low :: parts => rw [joinParts, notHigh]; rfl

theorem charOfUnit_of_notSurrogate {unit : Nat} (notHigh : isHighSurrogate unit = false)
    (notLow : isLowSurrogate unit = false) : charOfUnit unit = Char.ofNat unit := by
  rw [charOfUnit, notHigh, notLow]
  rfl

/-- The parts of a character are joined to it, whatever comes behind them. -/
theorem joinParts_partsOf (c : Char) (parts : List StringPart) :
    joinParts (partsOf c ++ parts) = c :: joinParts parts := by
  have scalar : c.toNat < 0xD800 ∨ (0xDFFF < c.toNat ∧ c.toNat < 0x110000) := c.valid
  unfold partsOf
  split
  · rfl
  split
  · rfl
  split
  · have notHigh : isHighSurrogate c.toNat = false := by
      simp only [isHighSurrogate, Bool.and_eq_false_iff, decide_eq_false_iff_not]
      omega
    have notLow : isLowSurrogate c.toNat = false := by
      simp only [isLowSurrogate, Bool.and_eq_false_iff, decide_eq_false_iff_not]
      omega
    change joinParts (.unit c.toNat :: parts) = _
    rw [joinParts_unit notHigh, charOfUnit_of_notSurrogate notHigh notLow, Char.ofNat_toNat]
  · rename_i beyond
    have pair : (isHighSurrogate (0xD800 + (c.toNat - 0x10000) / 0x400) &&
        isLowSurrogate (0xDC00 + (c.toNat - 0x10000) % 0x400)) = true := by
      simp only [isHighSurrogate, isLowSurrogate, Bool.and_eq_true, decide_eq_true_eq]
      omega
    have whole : joinSurrogates (0xD800 + (c.toNat - 0x10000) / 0x400)
        (0xDC00 + (c.toNat - 0x10000) % 0x400) = c := by
      have sum : 0x10000 + (0xD800 + (c.toNat - 0x10000) / 0x400 - 0xD800) * 0x400 +
          (0xDC00 + (c.toNat - 0x10000) % 0x400 - 0xDC00) = c.toNat := by omega
      rw [joinSurrogates, sum, Char.ofNat_toNat]
    change joinParts (.unit _ :: .unit _ :: parts) = _
    rw [joinParts, if_pos pair, whole]

/-! ## Reading a string -/

theorem foldr_prepend (front parts : List StringPart) (after : Text) :
    front.foldr prepend (.ok (parts, after)) = .ok (front ++ parts, after) := by
  induction front with
  | nil => rfl
  | cons part front ih =>
      rw [List.foldr_cons, ih]
      rfl

theorem readParts_written (opened text rest : Text) :
    readParts opened (text.flatMap renderChar ++ '"' :: rest) =
      .ok (text.flatMap partsOf, rest) := by
  induction text with
  | nil => rfl
  | cons c text ih =>
      rw [List.flatMap_cons, List.flatMap_cons, List.append_assoc]
      obtain ⟨next, later, eq⟩ : ∃ next later,
          text.flatMap renderChar ++ '"' :: rest = next :: later :=
        List.exists_cons_of_ne_nil (by simp)
      rw [eq, readParts_renderChar, ← eq, ih, foldr_prepend]

theorem joinParts_flatMap (text : Text) : joinParts (text.flatMap partsOf) = text := by
  induction text with
  | nil => rfl
  | cons c text ih => rw [List.flatMap_cons, joinParts_partsOf, ih]

/-- A string is read back from its opening quote on. -/
theorem readString_written (opened text rest : Text) :
    readString opened (text.flatMap renderChar ++ '"' :: rest) = .ok (text, rest) := by
  rw [readString, readParts_written]
  change Except.ok (joinParts (text.flatMap partsOf), rest) = _
  rw [joinParts_flatMap]

end SafeDelete.Json
