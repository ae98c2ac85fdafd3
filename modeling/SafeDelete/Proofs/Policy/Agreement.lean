/-
Module: SafeDelete.Proofs.Policy.Agreement
Purpose: Where a command line has no operator, the delete that is judged is the delete that is
  rewritten, and every operand that counts for the one is an operand of the other.
Main exports: Operands.unknownOptions, Operands.operands_sublist_targets, Operands.targets_perm,
  risk_agrees_with_deletion
-/
import SafeDelete.Proofs.Deletion.Replacement
import SafeDelete.Proofs.Policy.Risk

namespace SafeDelete

open Shell

/-!
### Operands and targets

The matcher drops the flags that it knows, the judge every word that looks like an option.  Up to
the double dash the known flags are among those words, so that the two differ in the options that
the matcher does not know.
-/

namespace Operands

/-- The options in front of the first bare double dash that are none of the delete command. -/
def unknownOptions (arguments : List Text) : List Text :=
  (arguments.takeWhile (· ≠ terminator)).filter fun word =>
    isOptionLike word && !isDeleteFlag word

/-- The words in front of the first bare double dash that are targets. -/
def targetsInFront (arguments : List Text) : List Text :=
  (arguments.takeWhile (· ≠ terminator)).filter (!isDeleteFlag ·)

theorem operands_eq (arguments : List Text) :
    Risk.operands arguments =
      (targetsInFront arguments).filter (!isOptionLike ·) ++
        (arguments.dropWhile (· ≠ terminator)).drop 1 := by
  rw [Risk.operands, targetsInFront, List.filter_filter]
  congr 1
  refine List.filter_congr fun word _ => ?_
  cases flag : isDeleteFlag word with
  | true => simp [isOptionLike_of_isDeleteFlag flag]
  | false => simp

theorem unknownOptions_eq (arguments : List Text) :
    unknownOptions arguments = (targetsInFront arguments).filter isOptionLike := by
  rw [unknownOptions, targetsInFront, List.filter_filter]

/-- What counts as an operand is a target, and the order is the same. -/
theorem operands_sublist_targets (arguments : List Text) :
    (Risk.operands arguments).Sublist (ofWords arguments).targets := by
  rw [operands_eq, targets_ofWords]
  exact List.filter_sublist.append_right _

theorem unknownOptions_sublist_targets (arguments : List Text) :
    (unknownOptions arguments).Sublist (ofWords arguments).targets := by
  rw [unknownOptions_eq, targets_ofWords]
  exact List.filter_sublist.trans (List.sublist_append_left _ _)

/-- The targets that do not count as operands are the unknown options. -/
theorem targets_perm (arguments : List Text) :
    (ofWords arguments).targets.Perm (Risk.operands arguments ++ unknownOptions arguments) := by
  have divided := List.filter_append_perm (!isOptionLike ·) (targetsInFront arguments)
  simp only [Bool.not_not] at divided
  rw [operands_eq, unknownOptions_eq, targets_ofWords]
  exact (divided.symm.append_right _).trans (by
    rw [List.append_assoc, List.append_assoc]
    exact List.perm_append_comm.append_left _)

end Operands

/-!
### One delete
-/

/-- In a line without an operator the judge finds a delete exactly where its only segment runs the
delete command.  The operands that it counts are then targets of the matcher, in their order; all
other targets are options that the matcher does not know; and where there is an operand, the line
has this one delete to rewrite. -/
theorem risk_agrees_with_deletion {command : Text} (visible : Text.isBlank command = false)
    (uncut : Uncut .plain command) :
    ∃ segment before later, segments command = [segment] ∧
      Prefix.split (segment.tokens.map Token.text) = (before, later) ∧
      ((Risk.ofCommand? command).isSome = true ↔ later.head? = some deleteCommand) ∧
      ∀ arguments, later = deleteCommand :: arguments →
        ∃ risk, Risk.ofCommand? command = some risk ∧
          risk = (Risk.operands arguments).foldr (fun word risk => risk.withOperand word)
            ((Risk.options arguments).foldr (fun word risk => risk.withOption word) .empty) ∧
          risk.operandCount = (Risk.operands arguments).length ∧
          (Risk.operands arguments).Sublist (Operands.ofWords arguments).targets ∧
          (Operands.unknownOptions arguments).Sublist (Operands.ofWords arguments).targets ∧
          (Operands.ofWords arguments).targets.Perm
            (Risk.operands arguments ++ Operands.unknownOptions arguments) ∧
          (0 < risk.operandCount → Deletion.inCommand command =
            [(0, ⟨.direct, before.length, before, .ofWords arguments⟩)]) := by
  have single := segments_of_uncut visible uncut
  obtain ⟨before, later, split⟩ : ∃ before later,
      Prefix.split (words command.trim) = (before, later) := ⟨_, _, rfl⟩
  have tokens : (Segment.ofText none command).tokens.map Token.text = words command.trim :=
    map_text_tokenize command.trim
  refine ⟨_, before, later, single, by rw [tokens, split], ?_, ?_⟩
  · rw [Risk.isSome_ofCommand?_iff, split]
  · rintro arguments rfl
    have sublist := Operands.operands_sublist_targets arguments
    refine ⟨_, Risk.ofCommand?_of_split (by rw [split]), Risk.ofWords_eq_foldr arguments,
      (Risk.describes_ofWords arguments).operandCount, sublist,
      Operands.unknownOptions_sublist_targets arguments, Operands.targets_perm arguments, ?_⟩
    intro counted
    rw [(Risk.describes_ofWords arguments).operandCount] at counted
    have targets : (Operands.ofWords arguments).targets ≠ [] :=
      List.ne_nil_of_length_pos (counted.trans_le sublist.length_le)
    have found := Deletion.inWords?_eq_some_iff.mpr (Deletion.Anatomy.direct split targets)
    rw [Deletion.inCommand, single, Deletion.inSegments, Deletion.inSegmentsFrom,
      Deletion.inSegment?, tokens, found]
    rfl

theorem risk_agrees_with_deletion_elevated :
    let command : Text := "A='1;2' sudo -u rm rm -rf -x a -- -f"
    let before : Prefix := ⟨["A='1;2'"], ["sudo", "-u", "rm"]⟩
    let arguments : List Text := ["-rf", "-x", "a", "--", "-f"]
    Text.isBlank command = false ∧ Uncut .plain command ∧
      (∃ risk, Risk.ofCommand? command = some risk ∧ risk.operandCount = 2) ∧
      (Operands.ofWords arguments).targets.Perm ["a", "-f", "-x"] ∧
      Deletion.inCommand command = [(0, ⟨.direct, 4, before, .ofWords arguments⟩)] := by
  intro command before arguments
  have visible : Text.isBlank command = false := by decide
  have uncut : Uncut .plain command := by decide
  obtain ⟨segment, first, later, line, split, -, agrees⟩ := risk_agrees_with_deletion visible uncut
  have single : segments command = [.ofText none command] := by decide
  obtain rfl : segment = .ofText none command := (List.cons.inj (line.symm.trans single)).1
  have parts : Prefix.split ((Segment.ofText none command).tokens.map Token.text) =
      (before, deleteCommand :: arguments) := by decide
  obtain ⟨rfl, rfl⟩ := Prod.mk.inj (split.symm.trans parts)
  obtain ⟨risk, found, -, counted, -, -, targets, rewritten⟩ := agrees arguments rfl
  have two : risk.operandCount = 2 := counted.trans (by decide)
  exact ⟨visible, uncut, ⟨risk, found, two⟩, targets, rewritten (by rw [two]; decide)⟩

end SafeDelete
