/-
Module: SafeDelete.Proofs.Shell.Trimming
Purpose: When trimming a piece of a command line leaves its words as they were written.
Main exports: Shell.letters, Shell.flatten_words, Shell.TrimsCleanly, Shell.words_trim_iff,
  Shell.tokens_eq_iff_trimsCleanly
-/
import Mathlib.Data.List.Forall2
import SafeDelete.Proofs.Shell.Segments

namespace SafeDelete.Shell

/-!
Trimming drops every blank of the Unicode tables at both ends of a piece, whatever stands before
it.  The scanner takes most of these blanks for ordinary characters, and none of them for a
separator when a backslash or an open quote stands before it.  So a piece keeps its words exactly
when trimming meets nothing but separators outside quotes and escapes.
-/

/-- The characters of a text that belong to words, read in the given mode. -/
def letters : ScanMode → Text → Text
  | _, [] => []
  | mode, c :: rest =>
    if mode = .plain ∧ isSeparator c = true then letters .plain rest
    else c :: letters (mode.step c) rest

theorem flatten_consWord (word : Text) (words : List Text) :
    (consWord word words).flatten = word ++ words.flatten := by
  cases word <;> rfl

theorem flatten_splitWords (mode : ScanMode) (text : Text) :
    (splitWords mode text).1 ++ (splitWords mode text).2.flatten = letters mode text := by
  induction text generalizing mode with
  | nil => rfl
  | cons c rest ih =>
      rw [splitWords, letters]
      by_cases here : mode = .plain ∧ isSeparator c = true
      · simp only [if_pos here, List.nil_append, flatten_consWord, ih]
      · simp only [if_neg here, List.cons_append, ih]

/-- The words of a text, put together, are its characters without the separators. -/
theorem flatten_words (text : Text) : (words text).flatten = letters .plain text := by
  rw [words, flatten_consWord, flatten_splitWords]

theorem letters_append (mode : ScanMode) (front back : Text) :
    letters mode (front ++ back) = letters mode front ++ letters (mode.run front) back := by
  induction front generalizing mode with
  | nil => rfl
  | cons c rest ih =>
      rw [List.cons_append, letters, letters, ScanMode.run_cons]
      by_cases here : mode = .plain ∧ isSeparator c = true
      · obtain ⟨rfl, separator⟩ := here
        rw [(isBare_of_isSeparator separator).step_plain]
        simp only [separator, and_self, if_true, ih]
      · simp only [if_neg here, ih, List.cons_append]

/-- A text without letters is empty, or separators outside quotes are all it has. -/
theorem letters_eq_nil {mode : ScanMode} {text : Text} (empty : letters mode text = []) :
    (∀ c ∈ text, isSeparator c = true) ∧ (text ≠ [] → mode = .plain) := by
  induction text generalizing mode with
  | nil => simp
  | cons c rest ih =>
      rw [letters] at empty
      split at empty
      · rename_i here
        refine ⟨fun d mem => ?_, fun _ => here.1⟩
        rcases List.mem_cons.mp mem with rfl | later
        · exact here.2
        · exact (ih empty).1 d later
      · contradiction

theorem words_of_forall_isSeparator {text : Text} (separators : ∀ c ∈ text, isSeparator c = true) :
    words text = [] := by
  induction text with
  | nil => rfl
  | cons c rest ih =>
      rw [words_cons_separator (separators c List.mem_cons_self)]
      exact ih fun d mem => separators d (List.mem_cons_of_mem _ mem)

theorem words_append_of_separators_front {front : Text}
    (separators : ∀ c ∈ front, isSeparator c = true) (back : Text) :
    words (front ++ back) = words back := by
  induction front with
  | nil => rfl
  | cons c rest ih =>
      rw [List.cons_append, words_cons_separator (separators c List.mem_cons_self)]
      exact ih fun d mem => separators d (List.mem_cons_of_mem _ mem)

theorem words_append_of_separators_back {front back : Text}
    (separators : ∀ c ∈ back, isSeparator c = true) (closed : back ≠ [] → Closed front) :
    words (front ++ back) = words front := by
  cases back with
  | nil => simp
  | cons c rest =>
      have none : words rest = [] :=
        words_of_forall_isSeparator fun d mem => separators d (List.mem_cons_of_mem _ mem)
      rw [words_append_separator (closed (by simp)) (separators c List.mem_cons_self), none,
        List.append_nil]

/-!
### Trimming
-/

/-- Trimming takes only separators off the text, and those at its back neither from inside quotes
nor from behind a backslash. -/
structure TrimsCleanly (text : Text) : Prop where
  front : ∀ c ∈ text.leadingBlanks, isSeparator c = true
  back : ∀ c ∈ text.trailingBlanks, isSeparator c = true
  closed : text.trailingBlanks ≠ [] → Closed text.trim

theorem letters_trim (text : Text) :
    letters .plain text =
      letters .plain text.leadingBlanks ++
        (letters .plain text.trim ++
          letters (ScanMode.plain.run text.trim) text.trailingBlanks) := by
  have leading : ScanMode.plain.run text.leadingBlanks = .plain :=
    closed_of_isBlank (Text.isBlank_leadingBlanks text)
  conv_lhs => rw [← Text.trim_decomposition text]
  rw [letters_append, letters_append, leading]

/-- Exactly the texts that trim cleanly keep their words. -/
theorem words_trim_iff (text : Text) : words text.trim = words text ↔ TrimsCleanly text := by
  constructor
  · intro same
    have sameLetters : letters .plain text.trim = letters .plain text := by
      rw [← flatten_words, ← flatten_words, same]
    have lengths := congrArg List.length (sameLetters.trans (letters_trim text))
    simp only [List.length_append] at lengths
    have noneInFront : letters .plain text.leadingBlanks = [] :=
      List.eq_nil_of_length_eq_zero (by omega)
    have noneBehind : letters (ScanMode.plain.run text.trim) text.trailingBlanks = [] :=
      List.eq_nil_of_length_eq_zero (by omega)
    obtain ⟨front, _⟩ := letters_eq_nil noneInFront
    obtain ⟨back, closed⟩ := letters_eq_nil noneBehind
    exact ⟨front, back, closed⟩
  · rintro ⟨front, back, closed⟩
    conv_rhs => rw [← Text.trim_decomposition text]
    rw [words_append_of_separators_front front, words_append_of_separators_back back closed]

theorem Segment.forall₂_ofPieces {pieces : List (Option Operator × Text)}
    {related : Segment → Option Operator × Text → Prop}
    (each : ∀ operator piece, piece ∈ pieces → related (ofText operator piece.2) piece) :
    List.Forall₂ related (ofPieces pieces) pieces := by
  cases pieces with
  | nil => exact .nil
  | cons first later =>
      refine .cons (each none first List.mem_cons_self) ?_
      rw [List.forall₂_map_left_iff, List.forall₂_same]
      exact fun piece mem => each piece.1 piece (List.mem_cons_of_mem _ mem)

/-- Piece by piece, the tokens of a segment are those of the text between its operators exactly
when that text trims cleanly. -/
theorem tokens_eq_iff_trimsCleanly (command : Text) :
    List.Forall₂
      (fun segment piece =>
        segment.raw = Text.trim piece.2 ∧
          (segment.tokens = tokenize piece.2 ↔ TrimsCleanly piece.2))
      (segments command) (visiblePieces command) := by
  rw [segments_eq_ofPieces]
  refine Segment.forall₂_ofPieces fun operator piece _ => ⟨rfl, ?_⟩
  exact tokenize_eq_iff.trans (words_trim_iff piece.2)

/-- Trimming takes the blank behind a backslash off the last word. -/
theorem trimming_changes_words :
    ¬∀ command : Text,
      List.Forall₂ (fun segment piece => segment.tokens = tokenize piece.2)
        (segments command) (visiblePieces command) := by
  intro kept
  have changed : ¬List.Forall₂ (fun segment piece => segment.tokens = tokenize piece.2)
      (segments "rm a\\ ") (visiblePieces "rm a\\ ") := by
    decide
  exact changed (kept _)

end SafeDelete.Shell
