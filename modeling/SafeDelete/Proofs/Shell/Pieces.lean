/-
Module: SafeDelete.Proofs.Shell.Pieces
Purpose: How a command line falls into pieces at its control operators, and how pieces that are put
  behind each other are cut again.
Main exports: Shell.operatorAt?, Shell.Uncut, Shell.splitPieces_append_of_uncut,
  Shell.piece_induction, Shell.uncut_append
-/
import SafeDelete.Proofs.Shell.Line
import SafeDelete.Shell.Segment

namespace SafeDelete.Shell

/-- The operator at the front of a text that is read from outside quotes, the longer spelling
first, and the text after it. -/
def operatorAt? : Text → Option (Operator × Text)
  | '&' :: '&' :: rest => some (.and, rest)
  | '|' :: '|' :: rest => some (.or, rest)
  | '|' :: rest => some (.pipe, rest)
  | ';' :: rest => some (.sequence, rest)
  | _ => none

theorem eq_append_of_operatorAt? {text rest : Text} {operator : Operator}
    (found : operatorAt? text = some (operator, rest)) : text = operator.text ++ rest := by
  unfold operatorAt? at found
  split at found <;> simp at found <;> obtain ⟨rfl, rfl⟩ := found <;> rfl

theorem splitPieces_of_operatorAt? {text rest : Text} {operator : Operator}
    (found : operatorAt? text = some (operator, rest)) :
    splitPieces .plain text = (splitPieces .plain rest).startWith operator := by
  unfold operatorAt? at found
  split at found <;> simp at found <;> obtain ⟨rfl, rfl⟩ := found <;> simp_all [splitPieces]

theorem splitPieces_cons {mode : ScanMode} {c : Char} {rest : Text}
    (none : mode = .plain → operatorAt? (c :: rest) = none) :
    splitPieces mode (c :: rest) =
      (c :: (splitPieces (mode.step c) rest).1, (splitPieces (mode.step c) rest).2) := by
  rw [splitPieces.eq_def mode (c :: rest)]
  split <;> simp_all [operatorAt?]

/-- What is no operator stays none when the text after it is cut off. -/
theorem operatorAt?_eq_none_of_append {front back : Text}
    (none : operatorAt? (front ++ back) = none) : operatorAt? front = Option.none := by
  unfold operatorAt? at none ⊢
  split at none <;> simp at none
  split <;> simp_all

/-- A text can only complete an operator with the second of two ampersands. -/
theorem operatorAt?_append {c : Char} {rest back : Text} (none : operatorAt? (c :: rest) = none)
    (start : back.head? ≠ some '&') : operatorAt? (c :: (rest ++ back)) = Option.none := by
  cases rest with
  | nil =>
      unfold operatorAt? at none ⊢
      split at none <;> simp at none
      split <;> simp_all
  | cons d rest =>
      unfold operatorAt? at none ⊢
      split at none <;> simp at none
      split <;> simp_all

/-!
### Uncut texts
-/

/-- Read in the given mode, the text has no operator outside quotes and escapes. -/
def Uncut : ScanMode → Text → Prop
  | _, [] => True
  | mode, c :: rest =>
    (mode = .plain → operatorAt? (c :: rest) = none) ∧ Uncut (mode.step c) rest

instance decidableUncut : (mode : ScanMode) → (text : Text) → Decidable (Uncut mode text)
  | _, [] => .isTrue trivial
  | mode, c :: rest =>
    have := decidableUncut (mode.step c) rest
    inferInstanceAs (Decidable (_ ∧ _))

/-- Pieces behind an uncut text are its own text and theirs, unless an ampersand is completed. -/
theorem splitPieces_append_of_uncut {mode : ScanMode} {front : Text} (uncut : Uncut mode front)
    {back : Text} (start : back.head? ≠ some '&') :
    splitPieces mode (front ++ back) =
      (front ++ (splitPieces (mode.run front) back).1, (splitPieces (mode.run front) back).2) := by
  induction front generalizing mode with
  | nil => rfl
  | cons c rest ih =>
      obtain ⟨here, later⟩ := uncut
      rw [List.cons_append, splitPieces_cons fun plain => operatorAt?_append (here plain) start,
        ih later]
      rfl

theorem splitPieces_of_uncut {mode : ScanMode} {text : Text} (uncut : Uncut mode text) :
    splitPieces mode text = (text, []) := by
  have whole := @splitPieces_append_of_uncut mode text uncut [] (by simp)
  simpa [splitPieces] using whole

theorem uncut_append {mode : ScanMode} {front back : Text} (uncutFront : Uncut mode front)
    (uncutBack : Uncut (mode.run front) back) (start : back.head? ≠ some '&') :
    Uncut mode (front ++ back) := by
  induction front generalizing mode with
  | nil => exact uncutBack
  | cons c rest ih =>
      obtain ⟨here, later⟩ := uncutFront
      exact ⟨fun plain => operatorAt?_append (here plain) start, ih later uncutBack⟩

theorem Uncut.of_append_left {mode : ScanMode} {front back : Text}
    (uncut : Uncut mode (front ++ back)) : Uncut mode front := by
  induction front generalizing mode with
  | nil => trivial
  | cons c rest ih =>
      obtain ⟨here, later⟩ := uncut
      exact ⟨fun plain => operatorAt?_eq_none_of_append (here plain), ih later⟩

theorem Uncut.of_append_right {mode : ScanMode} {front back : Text}
    (uncut : Uncut mode (front ++ back)) : Uncut (mode.run front) back := by
  induction front generalizing mode with
  | nil => exact uncut
  | cons c rest ih => exact ih uncut.2

/-- No operator can be spelled without its characters. -/
theorem uncut_of_forall_ne {mode : ScanMode} {text : Text}
    (ordinary : ∀ c ∈ text, c ≠ '&' ∧ c ≠ '|' ∧ c ≠ ';') : Uncut mode text := by
  induction text generalizing mode with
  | nil => trivial
  | cons c rest ih =>
      obtain ⟨notAmpersand, notBar, notSemicolon⟩ := ordinary c List.mem_cons_self
      refine ⟨fun _ => ?_, ih fun d mem => ordinary d (List.mem_cons_of_mem _ mem)⟩
      unfold operatorAt?
      split <;> simp_all

theorem uncut_cons_space {text : Text} (uncut : Uncut .plain text) : Uncut .plain (' ' :: text) :=
  ⟨fun _ => by cases text <;> rfl, uncut⟩

/-- The words of an uncut text are uncut. -/
theorem Uncut.of_mem_words {text : Text} (uncut : Uncut .plain text) :
    ∀ word ∈ words text, Uncut .plain word := by
  induction text using word_induction with
  | unbroken text whole =>
      intro word mem
      obtain ⟨rfl, _⟩ := mem_words_of_unbroken whole mem
      exact uncut
  | separated front c back whole closed separator ih =>
      have uncutBack : Uncut .plain back := by
        have later := uncut.of_append_right.2
        rwa [closed, (isBare_of_isSeparator separator).step_plain] at later
      intro word mem
      rw [words_append_separator closed separator, List.mem_append] at mem
      rcases mem with inFront | inBack
      · obtain ⟨rfl, _⟩ := mem_words_of_unbroken whole inFront
        exact uncut.of_append_left
      · exact ih uncutBack word inBack

/-- Uncut parts on one line are uncut, if none but the last is left open. -/
theorem uncut_unwords {parts : List Text} (uncut : ∀ part ∈ parts, Uncut .plain part)
    (closed : ClosedButLast parts) : Uncut .plain (Text.unwords parts) := by
  induction parts with
  | nil => trivial
  | cons part parts ih =>
      by_cases empty : parts = []
      · simpa [empty] using uncut part
      · obtain ⟨partClosed, later⟩ := closedButLast_cons.mp closed
        have uncutLater : Uncut .plain (Text.unwords parts) :=
          ih (fun other mem => uncut other (List.mem_cons_of_mem _ mem)) later
        rw [unwords_cons empty]
        refine uncut_append (uncut part List.mem_cons_self) ?_ (by simp)
        rw [partClosed empty]
        exact uncut_cons_space uncutLater

/-!
### Pieces
-/

/-- A text is uncut, or its first operator outside quotes and escapes cuts it in two. -/
theorem uncut_or_operator (mode : ScanMode) (text : Text) :
    Uncut mode text ∨
      ∃ front operator back, text = front ++ (operator.text ++ back) ∧ Uncut mode front ∧
        mode.run front = .plain ∧
        splitPieces mode text =
          (front, (operator, (splitPieces .plain back).1) :: (splitPieces .plain back).2) := by
  induction text generalizing mode with
  | nil => exact Or.inl trivial
  | cons c rest ih =>
      by_cases found : mode = .plain ∧ operatorAt? (c :: rest) ≠ none
      · obtain ⟨rfl, some⟩ := found
        obtain ⟨⟨operator, back⟩, eq⟩ := Option.ne_none_iff_exists'.mp some
        exact Or.inr ⟨[], operator, back, eq_append_of_operatorAt? eq, trivial, rfl,
          splitPieces_of_operatorAt? eq⟩
      · have none : mode = .plain → operatorAt? (c :: rest) = none := by
          simpa using found
        rcases ih (mode.step c) with uncut | ⟨front, operator, back, rfl, uncut, closed, split⟩
        · exact Or.inl ⟨none, uncut⟩
        · refine Or.inr ⟨c :: front, operator, back, rfl, ⟨fun plain => ?_, uncut⟩, closed, ?_⟩
          · exact operatorAt?_eq_none_of_append (none plain)
          · rw [splitPieces_cons none, split]

/-- The first piece of a text is where the text begins. -/
theorem splitPieces_isPrefix (mode : ScanMode) (text : Text) :
    (splitPieces mode text).1 <+: text := by
  rcases uncut_or_operator mode text with uncut | ⟨front, operator, back, rfl, -, -, split⟩
  · simp [splitPieces_of_uncut uncut]
  · rw [split]
    exact List.prefix_append _ _

/-- Induction on the pieces of a text: a text without an operator, and a text behind one. -/
theorem piece_induction {motive : Text → Prop}
    (uncut : ∀ text, Uncut .plain text → motive text)
    (cut : ∀ front operator back, Uncut .plain front → Closed front →
      splitPieces .plain (front ++ (operator.text ++ back)) =
        (front, (operator, (splitPieces .plain back).1) :: (splitPieces .plain back).2) →
      motive back → motive (front ++ (operator.text ++ back))) (text : Text) : motive text := by
  rcases uncut_or_operator .plain text with
    whole | ⟨front, operator, back, eq, whole, closed, split⟩
  · exact uncut text whole
  · have shorter : back.length < text.length := by
      have spelled : 0 < operator.text.length := by cases operator <;> decide
      simp only [eq, List.length_append]
      omega
    exact eq ▸ cut front operator back whole closed (eq ▸ split)
      (piece_induction uncut cut back)
termination_by text.length

end SafeDelete.Shell
