/-
Module: SafeDelete.Proofs.Shell.Words
Purpose: How a command line falls into words.
Main exports: Shell.ScanMode.run_append, Shell.IsBare, Shell.mem_literalFrom_iff, Shell.Closed,
  Shell.IsWord, Shell.word_induction, Shell.words_append_separator, Shell.isWord_of_mem_words,
  Shell.closedButLast_words
-/
import SafeDelete.Proofs.Text.Trim
import SafeDelete.Shell.Token

namespace SafeDelete.Shell

/-!
### Scanning

The mode after a text is all that a scanner carries from one text into the next.  Characters that
are no quotes and no backslash leave a plain scanner plain.
-/

namespace ScanMode

/-- The next character is taken as it is, because of a backslash before it. -/
def isPending : ScanMode → Bool
  | .escaped | .doubleEscaped => true
  | _ => false

@[simp] theorem run_cons (mode : ScanMode) (c : Char) (rest : Text) :
    mode.run (c :: rest) = (mode.step c).run rest := rfl

@[simp] theorem run_append (mode : ScanMode) (front back : Text) :
    mode.run (front ++ back) = (mode.run front).run back := by
  simp [run, List.foldl_append]

end ScanMode

/-- A character that neither quotes nor escapes. -/
def IsBare (c : Char) : Prop :=
  c ≠ '\\' ∧ c ≠ '\'' ∧ c ≠ '"'

instance (c : Char) : Decidable (IsBare c) :=
  inferInstanceAs (Decidable (_ ∧ _ ∧ _))

theorem IsBare.step_plain {c : Char} (bare : IsBare c) : ScanMode.plain.step c = .plain := by
  obtain ⟨notBackslash, notSingle, notDouble⟩ := bare
  simp [ScanMode.step, Quote.ofChar?, notBackslash, notSingle, notDouble]

theorem IsBare.keeps {c : Char} (bare : IsBare c) (mode : ScanMode) : mode.keeps c = true := by
  obtain ⟨notBackslash, notSingle, notDouble⟩ := bare
  cases mode <;>
    simp [ScanMode.keeps, Quote.ofChar?, Quote.mark, notBackslash, notSingle, notDouble]

/-- Quoting and escaping neither add nor hide a character, unless it is one of their marks. -/
theorem mem_literalFrom_iff {c : Char} (bare : IsBare c) (mode : ScanMode) (text : Text) :
    c ∈ literalFrom mode text ↔ c ∈ text := by
  induction text generalizing mode with
  | nil => simp [literalFrom]
  | cons d rest ih =>
      rw [literalFrom, List.mem_cons, ← ih (mode.step d)]
      split
      · rw [List.mem_cons]
      · rename_i dropped
        have other : c ≠ d := by
          rintro rfl
          exact dropped (bare.keeps mode)
        simp [other]

theorem isBare_of_isBlank {c : Char} (blank : isBlank c = true) : IsBare c := by
  refine ⟨?_, ?_, ?_⟩ <;> (rintro rfl; revert blank; decide)

theorem isBlank_of_isSeparator {c : Char} (separator : isSeparator c = true) :
    isBlank c = true := by
  simp only [isSeparator, Bool.or_eq_true, beq_iff_eq] at separator
  rcases separator with (rfl | rfl) | rfl <;> decide

theorem isBare_of_isSeparator {c : Char} (separator : isSeparator c = true) : IsBare c :=
  isBare_of_isBlank (isBlank_of_isSeparator separator)

/-- Read from outside quotes, the text ends outside quotes and with no pending escape. -/
def Closed (text : Text) : Prop :=
  ScanMode.plain.run text = .plain

theorem closed_nil : Closed [] := rfl

theorem closed_of_bare {text : Text} (bare : ∀ c ∈ text, IsBare c) : Closed text := by
  induction text with
  | nil => rfl
  | cons c rest ih =>
      rw [Closed, ScanMode.run_cons, (bare c List.mem_cons_self).step_plain]
      exact ih fun d mem => bare d (List.mem_cons_of_mem _ mem)

theorem closed_of_isBlank {text : Text} (blank : Text.isBlank text = true) : Closed text :=
  closed_of_bare fun _ mem => isBare_of_isBlank (Text.isBlank_iff.mp blank _ mem)

theorem Closed.run_append {front : Text} (closed : Closed front) (back : Text) :
    ScanMode.plain.run (front ++ back) = ScanMode.plain.run back := by
  rw [ScanMode.run_append, closed]

theorem Closed.append_iff {front : Text} (closed : Closed front) {back : Text} :
    Closed (front ++ back) ↔ Closed back := by
  rw [Closed, closed.run_append, Closed]

/-!
### Words

A text with no separator outside quotes is one word.  Every other text is such a text, a separator,
and a remainder that is read from outside quotes again, which is the induction that all facts about
the words of a text are proved by.
-/

/-- Read in the given mode, the text has no separator outside quotes and escapes. -/
def Unbroken : ScanMode → Text → Prop
  | _, [] => True
  | mode, c :: rest => ¬(mode = .plain ∧ isSeparator c = true) ∧ Unbroken (mode.step c) rest

theorem unbroken_append {mode : ScanMode} {front back : Text} :
    Unbroken mode (front ++ back) ↔ Unbroken mode front ∧ Unbroken (mode.run front) back := by
  induction front generalizing mode with
  | nil => exact (iff_of_eq (true_and _)).symm
  | cons c rest ih => rw [List.cons_append, Unbroken, Unbroken, ih, and_assoc, ScanMode.run_cons]

/-- One word, as written. -/
structure IsWord (word : Text) : Prop where
  nonempty : word ≠ []
  unbroken : Unbroken .plain word

@[simp] theorem consWord_append (word : Text) (front back : List Text) :
    consWord word front ++ back = consWord word (front ++ back) := by
  cases word <;> rfl

theorem splitWords_of_unbroken {mode : ScanMode} {text : Text} (unbroken : Unbroken mode text) :
    splitWords mode text = (text, []) := by
  induction text generalizing mode with
  | nil => rfl
  | cons c rest ih =>
      obtain ⟨here, later⟩ := unbroken
      rw [splitWords, if_neg here, ih later]

theorem words_of_unbroken {text : Text} (unbroken : Unbroken .plain text) :
    words text = consWord text [] := by
  rw [words, splitWords_of_unbroken unbroken]

@[simp] theorem words_nil : words [] = [] := rfl

theorem IsWord.words_eq {word : Text} (isWord : IsWord word) : words word = [word] := by
  rw [words_of_unbroken isWord.unbroken]
  cases word with
  | nil => exact absurd rfl isWord.nonempty
  | cons c rest => rfl

theorem splitWords_append_separator {mode : ScanMode} {front : Text}
    (closed : mode.run front = .plain) {c : Char} (separator : isSeparator c = true) (back : Text) :
    splitWords mode (front ++ c :: back) =
      ((splitWords mode front).1, (splitWords mode front).2 ++ words back) := by
  induction front generalizing mode with
  | nil =>
      obtain rfl : mode = .plain := closed
      simp [splitWords, separator, words]
  | cons d rest ih =>
      rw [ScanMode.run_cons] at closed
      rw [List.cons_append, splitWords, splitWords]
      by_cases here : mode = .plain ∧ isSeparator d = true
      · obtain ⟨rfl, separates⟩ := here
        rw [(isBare_of_isSeparator separates).step_plain] at closed
        simp [separates, ih closed]
      · simp only [if_neg here, ih closed]

/-- A separator outside quotes cuts the words of a text in two. -/
theorem words_append_separator {front : Text} (closed : Closed front) {c : Char}
    (separator : isSeparator c = true) (back : Text) :
    words (front ++ c :: back) = words front ++ words back := by
  simp [words, splitWords_append_separator closed separator]

/-- The words after a separator are those of what follows it. -/
theorem words_cons_separator {c : Char} (separator : isSeparator c = true) (back : Text) :
    words (c :: back) = words back :=
  words_append_separator closed_nil separator back

/-- A text is unbroken, or its first separator outside quotes cuts it in two. -/
theorem unbroken_or_separator (mode : ScanMode) (text : Text) :
    Unbroken mode text ∨
      ∃ front c back, text = front ++ c :: back ∧ Unbroken mode front ∧
        mode.run front = .plain ∧ isSeparator c = true := by
  induction text generalizing mode with
  | nil => exact Or.inl trivial
  | cons c rest ih =>
      by_cases here : mode = .plain ∧ isSeparator c = true
      · exact Or.inr ⟨[], c, rest, rfl, trivial, here.1, here.2⟩
      · rcases ih (mode.step c) with unbroken | ⟨front, d, back, rfl, unbroken, closed, separator⟩
        · exact Or.inl ⟨here, unbroken⟩
        · exact Or.inr ⟨c :: front, d, back, rfl, ⟨here, unbroken⟩, closed, separator⟩

/-- Induction on the words of a text: a text without a separator, and a text behind one. -/
theorem word_induction {motive : Text → Prop}
    (unbroken : ∀ text, Unbroken .plain text → motive text)
    (separated : ∀ front c back, Unbroken .plain front → Closed front → isSeparator c = true →
      motive back → motive (front ++ c :: back)) (text : Text) : motive text := by
  rcases unbroken_or_separator .plain text with
    whole | ⟨front, c, back, eq, whole, closed, separator⟩
  · exact unbroken text whole
  · have shorter : back.length < text.length := by
      simp only [eq, List.length_append, List.length_cons]
      omega
    exact eq ▸ separated front c back whole closed separator
      (word_induction unbroken separated back)
termination_by text.length

theorem mem_words_of_unbroken {text word : Text} (unbroken : Unbroken .plain text)
    (mem : word ∈ words text) : word = text ∧ IsWord text := by
  rw [words_of_unbroken unbroken, consWord] at mem
  split at mem
  · simp at mem
  · rename_i nonempty
    exact ⟨List.mem_singleton.mp mem, by simpa using nonempty, unbroken⟩

/-- The words of a text are words. -/
theorem isWord_of_mem_words (text : Text) : ∀ word ∈ words text, IsWord word := by
  induction text using word_induction with
  | unbroken text whole =>
      intro word mem
      obtain ⟨rfl, isWord⟩ := mem_words_of_unbroken whole mem
      exact isWord
  | separated front c back whole closed separator ih =>
      intro word mem
      rw [words_append_separator closed separator, List.mem_append] at mem
      rcases mem with inFront | inBack
      · obtain ⟨rfl, isWord⟩ := mem_words_of_unbroken whole inFront
        exact isWord
      · exact ih word inBack

theorem map_text_tokenize (text : Text) : (tokenize text).map Token.text = words text := by
  rw [tokenize, List.map_map]
  exact List.map_id _

theorem tokenize_eq_iff {first second : Text} :
    tokenize first = tokenize second ↔ words first = words second := by
  constructor
  · intro same
    rw [← map_text_tokenize, ← map_text_tokenize, same]
  · intro same
    rw [tokenize, tokenize, same]

/-- Only the last of the parts can end inside quotes or with a pending escape. -/
def ClosedButLast (parts : List Text) : Prop :=
  parts.Pairwise fun part _ => Closed part

theorem closedButLast_cons {part : Text} {parts : List Text} :
    ClosedButLast (part :: parts) ↔ (parts ≠ [] → Closed part) ∧ ClosedButLast parts := by
  rw [ClosedButLast, List.pairwise_cons]
  constructor
  · rintro ⟨closed, later⟩
    exact ⟨fun nonempty => closed _ (List.head_mem nonempty), later⟩
  · rintro ⟨closed, later⟩
    exact ⟨fun _ mem => closed (List.ne_nil_of_mem mem), later⟩

theorem closedButLast_append {front back : List Text} (closed : ∀ part ∈ front, Closed part)
    (later : ClosedButLast back) : ClosedButLast (front ++ back) := by
  induction front with
  | nil => exact later
  | cons part rest ih =>
      rw [List.cons_append, closedButLast_cons]
      exact ⟨fun _ => closed part List.mem_cons_self,
        ih fun other mem => closed other (List.mem_cons_of_mem _ mem)⟩

theorem closedButLast_of_closed {parts : List Text} (closed : ∀ part ∈ parts, Closed part) :
    ClosedButLast parts :=
  List.pairwise_of_forall_mem_list fun part mem _ _ => closed part mem

theorem closedButLast_words (text : Text) : ClosedButLast (words text) := by
  induction text using word_induction with
  | unbroken text whole =>
      rw [words_of_unbroken whole, consWord]
      split
      · exact List.Pairwise.nil
      · exact List.pairwise_singleton _ _
  | separated front c back whole closed separator ih =>
      have frontClosed : ∀ word ∈ words front, Closed word := by
        intro word mem
        obtain ⟨rfl, _⟩ := mem_words_of_unbroken whole mem
        exact closed
      rw [words_append_separator closed separator]
      exact closedButLast_append frontClosed ih

end SafeDelete.Shell
