/-
Module: SafeDelete.Proofs.Deletion.Spelling
Purpose: To replace a delete is to spell the delete command once less, so that no line with a delete
  is rewritten to itself.
Main exports: spellings, spellings_append_le, spellings_append_gap, spellings_unwords,
  sum_spellings_words, Deletion.keptBehind_subperm, sum_spellings_segments_le,
  spellings_rewriteToTrash_add_le, rewriteToTrash_eq_self_iff
-/
import Mathlib
import SafeDelete.Proofs.Deletion.Structure

namespace SafeDelete

open Shell

/-!
### Spellings

A rewritten line is put together from words of the line it was, with blanks and operators between
them that are its own.  What it cannot have more of is the delete command, as a word or within one:
none of the characters between two words is one of its letters, so that all its spellings are in the
words, and the words are those of the original with a delete command less for every delete.
-/

/-- How often the delete command is spelled in a text. -/
def spellings : Text → Nat
  | [] => 0
  | c :: rest => (if deleteCommand <+: c :: rest then 1 else 0) + spellings rest

theorem spellings_eq_zero {text : Text} (none : ¬deleteCommand <:+: text) :
    spellings text = 0 := by
  induction text with
  | nil => rfl
  | cons c rest ih =>
      rw [List.infix_cons_iff, not_or] at none
      rw [spellings, if_neg none.1, ih none.2]

/-- Texts that are put behind each other keep their spellings, and may make a new one. -/
theorem spellings_append_le (front back : Text) :
    spellings front + spellings back ≤ spellings (front ++ back) := by
  induction front with
  | nil => simp [spellings]
  | cons c rest ih =>
      have kept : deleteCommand <+: c :: rest → deleteCommand <+: c :: (rest ++ back) :=
        fun spelled => spelled.trans (List.prefix_append (c :: rest) back)
      rw [List.cons_append, spellings, spellings]
      split <;> split <;> simp_all <;> omega

theorem mem_deleteCommand_iff {c : Char} : c ∈ deleteCommand ↔ c = 'r' ∨ c = 'm' := by
  simp [deleteCommand]

/-- A character that is no letter of the delete command keeps spellings apart. -/
theorem spellings_append_cons {c : Char} (apart : c ∉ deleteCommand) (front back : Text) :
    spellings (front ++ c :: back) = spellings front + spellings back := by
  rw [mem_deleteCommand_iff] at apart
  obtain ⟨notFirst, notSecond⟩ : c ≠ 'r' ∧ c ≠ 'm' := not_or.mp apart
  induction front with
  | nil => simp [spellings, deleteCommand, notFirst.symm]
  | cons d rest ih =>
      have same : deleteCommand <+: d :: (rest ++ c :: back) ↔ deleteCommand <+: d :: rest := by
        cases rest with
        | nil => simp [deleteCommand, notSecond.symm]
        | cons e rest => simp [deleteCommand]
      rw [List.cons_append, spellings, spellings, ih, Nat.add_assoc]
      simp only [same]

/-- So does a gap of such characters. -/
theorem spellings_append_gap {gap : Text} (nonempty : gap ≠ [])
    (apart : ∀ c ∈ gap, c ∉ deleteCommand) (front back : Text) :
    spellings (front ++ (gap ++ back)) = spellings front + spellings back := by
  induction gap generalizing front with
  | nil => exact absurd rfl nonempty
  | cons c gap ih =>
      rw [List.cons_append, spellings_append_cons (apart c List.mem_cons_self)]
      by_cases last : gap = []
      · rw [last, List.nil_append]
      · have later := ih last (fun d mem => apart d (List.mem_cons_of_mem _ mem)) []
        rw [List.nil_append] at later
        rw [later, spellings, Nat.zero_add]

theorem spellings_trim_le (text : Text) : spellings text.trim ≤ spellings text := by
  have front := spellings_append_le text.leadingBlanks (text.trim ++ text.trailingBlanks)
  have back := spellings_append_le text.trim text.trailingBlanks
  rw [Text.trim_decomposition] at front
  omega

/-!
### Words and segments
-/

theorem spellings_unwords (parts : List Text) :
    spellings (Text.unwords parts) = (parts.map spellings).sum := by
  induction parts with
  | nil => rfl
  | cons part parts ih =>
      by_cases last : parts = []
      · simp [last]
      · rw [unwords_cons last, spellings_append_cons (by decide), ih, List.map_cons, List.sum_cons]

theorem not_mem_deleteCommand_of_isSeparator {c : Char} (separator : isSeparator c = true) :
    c ∉ deleteCommand := by
  rw [mem_deleteCommand_iff]
  rintro (rfl | rfl) <;> contradiction

/-- All spellings of a text are in its words. -/
theorem sum_spellings_words (text : Text) :
    ((words text).map spellings).sum = spellings text := by
  induction text using word_induction with
  | unbroken text whole =>
      rw [words_of_unbroken whole]
      cases text <;> simp [consWord, spellings]
  | separated front c back whole closed separator ih =>
      have here : ((words front).map spellings).sum = spellings front := by
        rw [words_of_unbroken whole]
        cases front <;> simp [consWord, spellings]
      rw [words_append_separator closed separator, List.map_append, List.sum_append, here, ih,
        spellings_append_cons (not_mem_deleteCommand_of_isSeparator separator)]

theorem sum_spellings_pieces_le (command : Text) :
    ((pieces command).map fun piece => spellings piece.2).sum ≤ spellings command := by
  induction command using piece_induction with
  | uncut text whole => simp [pieces_of_uncut whole]
  | cut front operator back whole closed split ih =>
      have apart : spellings (front ++ (operator.text ++ back)) =
          spellings front + spellings back := by
        apply spellings_append_gap
        · cases operator <;> decide
        · cases operator <;> simp [Operator.text, mem_deleteCommand_iff]
      rw [pieces, List.map_cons, List.sum_cons] at ih
      rw [pieces_of_splitPieces split, apart, List.map_cons, List.map_cons, List.sum_cons,
        List.sum_cons]
      exact Nat.add_le_add_left ih _

theorem sum_spellings_segments_le (command : Text) :
    ((segments command).map fun segment => spellings segment.raw).sum ≤ spellings command := by
  have raw : ∀ pieces : List (Option Operator × Text),
      (Segment.ofPieces pieces).map (fun segment => spellings segment.raw) =
        pieces.map fun piece => spellings piece.2.trim := by
    rintro (_ | ⟨first, later⟩)
    · rfl
    · simp [Segment.ofPieces, Segment.ofText]
  calc ((segments command).map fun segment => spellings segment.raw).sum
      = ((visiblePieces command).map fun piece => spellings piece.2.trim).sum := by
        rw [segments_eq_ofPieces, raw]
    _ ≤ ((visiblePieces command).map fun piece => spellings piece.2).sum :=
        List.sum_le_sum fun piece _ => spellings_trim_le piece.2
    _ ≤ ((pieces command).map fun piece => spellings piece.2).sum :=
        (List.filter_sublist.map _).sum_le_sum fun _ _ => Nat.zero_le _
    _ ≤ spellings command := sum_spellings_pieces_le command

/-!
### Replacing a delete
-/

namespace Deletion

/-- What is kept of the words behind a delete command are some of those words, each once. -/
theorem keptBehind_subperm (form : Form) (words : List Text) :
    (keptBehind form words).Subperm words := by
  cases form with
  | direct =>
      have moved : (keptBehind .direct words).Perm
          ((words.takeWhile (· ≠ Operands.terminator)).filter (!isDeleteFlag ·) ++
            words.dropWhile (· ≠ Operands.terminator)) := by
        rw [keptBehind]
        conv_rhs => rw [← List.take_append_drop 1 (words.dropWhile _)]
        exact List.perm_append_comm_assoc _ _ _
      have kept : ((words.takeWhile (· ≠ Operands.terminator)).filter (!isDeleteFlag ·) ++
            words.dropWhile (· ≠ Operands.terminator)).Sublist words := by
        conv_rhs => rw [← @List.takeWhile_append_dropWhile _ (· ≠ Operands.terminator) words]
        exact List.filter_sublist.append_right _
      exact moved.subperm.trans kept.subperm
  | xargs => exact (List.dropWhile_sublist _).subperm
  | findExec => exact (List.dropWhile_sublist _).subperm

theorem sum_spellings_le_of_subperm {first second : List Text} (subperm : first.Subperm second) :
    (first.map spellings).sum ≤ (second.map spellings).sum := by
  obtain ⟨middle, perm, sublist⟩ := subperm
  rw [← (perm.map spellings).sum_eq]
  exact (sublist.map spellings).sum_le_sum fun _ _ => Nat.zero_le _

variable {trash : Text}

/-- The words of a segment whose delete is replaced spell the delete command at least once less. -/
theorem Anatomy.spellings_replacedWords_lt {text : Text} {deletion : Deletion}
    (anatomy : Anatomy (words text) deletion) (other : ¬deleteCommand <:+: trash) :
    spellings (Text.unwords (deletion.replacedWords (words text) trash)) < spellings text := by
  have once : spellings deleteCommand = 1 := by decide
  have kept := sum_spellings_le_of_subperm
    (keptBehind_subperm deletion.form ((words text).drop (deletion.index + 1)))
  have whole := sum_spellings_words text
  rw [anatomy.words_eq, List.map_append, List.map_cons, List.sum_append, List.sum_cons, once]
    at whole
  rw [spellings_unwords, replacedWords, List.map_append, List.map_cons, List.sum_append,
    List.sum_cons, spellings_eq_zero other]
  omega

/-- The deletes that are found in segments are spellings that their rewritten texts lack. -/
theorem sum_spellings_rewrittenPart_add_le (other : ¬deleteCommand <:+: trash)
    {line : List Segment} (wellformed : ∀ segment ∈ line, segment.Wellformed) (start : Nat) :
    (line.map fun segment => spellings (rewrittenPart trash segment)).sum +
        (inSegmentsFrom start line).length ≤
      (line.map fun segment => spellings segment.raw).sum := by
  induction line generalizing start with
  | nil => simp [inSegmentsFrom]
  | cons segment line ih =>
      have later := ih (fun next mem => wellformed next (List.mem_cons_of_mem _ mem)) (start + 1)
      rw [List.map_cons, List.map_cons, List.sum_cons, List.sum_cons, inSegmentsFrom,
        List.length_append]
      cases found : inSegment? segment with
      | none =>
          rw [rewrittenPart_of_none found, Option.map_none, Option.toList_none, List.length_nil]
          omega
      | some deletion =>
          have here := wellformed segment List.mem_cons_self
          have less := (anatomy_of_inSegment? here found).spellings_replacedWords_lt other
          rw [rewrittenPart_eq here found, Option.map_some, Option.toList_some,
            List.length_singleton]
          omega

end Deletion

/-- What is printed between two segments has no letter of the delete command. -/
theorem spellings_append_lead (segment : Segment) (front back : Text) :
    spellings (front ++ (segment.lead ++ back)) = spellings front + spellings back := by
  have gap : segment.lead ≠ [] ∧ ∀ c ∈ segment.lead, c ∉ deleteCommand := by
    rw [Segment.lead]
    split
    · rename_i operator _
      cases operator <;> simp [Operator.between, Operator.text, mem_deleteCommand_iff]
    · simp [mem_deleteCommand_iff]
  exact spellings_append_gap gap.1 gap.2 front back

theorem spellings_rewriteSegments (trash : Text) (line : List Segment) :
    spellings (rewriteSegments trash line) =
      (line.map fun segment => spellings (rewrittenPart trash segment)).sum := by
  cases line with
  | nil => rfl
  | cons first rest =>
      rw [rewriteSegments, List.map_cons, List.sum_cons]
      generalize rewrittenPart trash first = front
      induction rest generalizing front with
      | nil => simp
      | cons next rest ih =>
          rw [List.flatMap_cons, ← List.append_assoc, ih, spellings_append_lead, List.map_cons,
            List.sum_cons, Nat.add_assoc]

/-- With every delete that is replaced, a line spells the delete command once less. -/
theorem spellings_rewriteToTrash_add_le {trash : Text} (other : ¬deleteCommand <:+: trash)
    (command : Text) :
    spellings (rewriteToTrash command trash) + (Deletion.inCommand command).length ≤
      spellings command := by
  by_cases none : Deletion.inCommand command = []
  · rw [rewriteToTrash_of_inCommand_eq_nil none, none, List.length_nil, Nat.add_zero]
  · rw [rewriteToTrash_of_inCommand_ne_nil none, spellings_rewriteSegments]
    exact (Deletion.sum_spellings_rewrittenPart_add_le other
      (fun _ => wellformed_of_mem_segments) 0).trans (sum_spellings_segments_le command)

/-- A line is rewritten to itself exactly if it has no delete.  The trash command must not spell the
delete command, or it could stand for it. -/
theorem rewriteToTrash_eq_self_iff {trash : Text} (other : ¬deleteCommand <:+: trash)
    (command : Text) :
    rewriteToTrash command trash = command ↔ Deletion.inCommand command = [] := by
  constructor
  · intro same
    have less := spellings_rewriteToTrash_add_le other command
    rw [same] at less
    exact List.eq_nil_of_length_eq_zero (by omega)
  · intro none
    exact rewriteToTrash_of_inCommand_eq_nil none trash

theorem rewriteToTrash_eq_self_iff_mixed :
    let deleting : Text := "true  &&rm -- rm ; echo rm"
    let harmless : Text := "echo rm  a;; rm -f|xargs -0 term"
    ¬deleteCommand <:+: ("gio trash" : Text) ∧
      Deletion.inCommand deleting ≠ [] ∧ rewriteToTrash deleting "gio trash" ≠ deleting ∧
      Deletion.inCommand harmless = [] ∧ rewriteToTrash harmless "gio trash" = harmless := by
  intro deleting harmless
  have other : ¬deleteCommand <:+: ("gio trash" : Text) := by
    simp [deleteCommand, List.infix_cons_iff]
  have found : Deletion.inCommand deleting ≠ [] := by decide
  have none : Deletion.inCommand harmless = [] := by decide
  exact ⟨other, found, fun same => found ((rewriteToTrash_eq_self_iff other deleting).mp same),
    none, (rewriteToTrash_eq_self_iff other harmless).mpr none⟩

end SafeDelete
