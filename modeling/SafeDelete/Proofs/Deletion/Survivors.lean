/-
Module: SafeDelete.Proofs.Deletion.Survivors
Purpose: The deletes that are left in a command line after it is rewritten.
Main exports: Deletion.IsInert, Shell.Segment.RunsFurtherDelete,
  Deletion.isSome_inSegment?_rewritten_iff, rewriteToTrash_leaves_second_action,
  deletes_left_by_rewriteToTrash
-/
import SafeDelete.Proofs.Deletion.Structure

namespace SafeDelete

open Shell

namespace Deletion

/-!
### The words of a rewritten segment
-/

variable {text trash : Text} {deletion : Deletion}

/-- A line that starts as a segment does, or with the trash command, starts with no blank. -/
theorem front_replaced (plain : PlainCommand trash) (solid : Text.Solid text) (index : Nat)
    (behind : List Text) :
    ∀ part ∈ ((words text).take index ++ trash :: behind).head?,
      ∀ c ∈ part.head?, isBlank c = false := by
  intro part mem
  rw [List.head?_append, List.head?_take] at mem
  split at mem
  · obtain rfl : trash = part := by simpa using mem
    exact plain.solid.front
  · cases start : (words text).head? with
    | none =>
        obtain rfl : trash = part := by simpa [start] using mem
        exact plain.solid.front
    | some word =>
        obtain rfl : word = part := by simpa [start] using mem
        exact front_words solid word start

theorem nonempty_replaced (plain : PlainCommand trash) (index : Nat) {behind : List Text}
    (isWord : ∀ word ∈ behind, IsWord word) :
    ∀ part ∈ (words text).take index ++ trash :: behind, part ≠ [] := by
  intro part mem
  rw [List.mem_append, List.mem_cons] at mem
  rcases mem with before | rfl | later
  · exact (isWord_of_mem_words text part (List.mem_of_mem_take before)).nonempty
  · exact plain.nonempty
  · exact (isWord part later).nonempty

namespace Anatomy

theorem closed_upToTrash (anatomy : Anatomy (words text) deletion) (plain : PlainCommand trash) :
    ∀ part ∈ (words text).take deletion.index ++ [trash], Closed part := by
  intro part mem
  rcases List.mem_append.mp mem with before | here
  · exact anatomy.closed_before part before
  · exact List.mem_singleton.mp here ▸ plain.closed

theorem words_upToTrash (anatomy : Anatomy (words text) deletion) (plain : PlainCommand trash) :
    words (Text.unwords ((words text).take deletion.index ++ [trash])) =
      (words text).take deletion.index ++ words trash := by
  rw [words_unwords (closedButLast_of_closed (anatomy.closed_upToTrash plain)),
    List.flatMap_append, List.flatMap_singleton,
    flatMap_words fun word mem => isWord_of_mem_words text word (List.mem_of_mem_take mem)]

/-- Trimming a rewritten segment takes off none of the words up to the trash command. -/
theorem words_trim (anatomy : Anatomy (words text) deletion) (plain : PlainCommand trash)
    (solid : Text.Solid text) :
    ∃ rest, words (Text.unwords (deletion.replacedWords (words text) trash)).trim =
      (words text).take deletion.index ++ words trash ++ rest := by
  have solidFront : Text.Solid (Text.unwords ((words text).take deletion.index ++ [trash])) :=
    solid_unwords (nonempty_replaced plain deletion.index (by simp))
      (front_replaced plain solid deletion.index []) (by simpa using plain.solid.back)
  rw [replacedWords, List.append_cons]
  by_cases empty : keptBehind deletion.form ((words text).drop (deletion.index + 1)) = []
  · rw [empty, List.append_nil, Text.trim_of_solid solidFront, anatomy.words_upToTrash plain]
    exact ⟨[], (List.append_nil _).symm⟩
  · have line : Text.unwords ((words text).take deletion.index ++ [trash]) ≠ [] := by
      obtain ⟨c, mem⟩ := List.exists_mem_of_ne_nil trash plain.nonempty
      exact List.ne_nil_of_mem (mem_unwords (List.mem_append_right _ List.mem_cons_self) mem)
    have apart : ∀ c ∈ (' ' :: Text.unwords
        (keptBehind deletion.form ((words text).drop (deletion.index + 1)))).head?,
        isSeparator c = true := by
      simp [isSeparator]
    obtain ⟨rest, eq⟩ := words_trim_append solidFront line
      (closed_unwords (anatomy.closed_upToTrash plain)) apart
    rw [unwords_append (by simp) empty, eq, anatomy.words_upToTrash plain]
    exact ⟨rest, rfl⟩

/-- Where the delete is not direct, the last word of the segment stays the last one, so that
trimming the rewritten segment takes off nothing. -/
theorem trim_replacedWords (anatomy : Anatomy (words text) deletion) (plain : PlainCommand trash)
    (solid : Text.Solid text) (indirect : deletion.form ≠ .direct) :
    (Text.unwords (deletion.replacedWords (words text) trash)).trim =
      Text.unwords (deletion.replacedWords (words text) trash) := by
  have kept : keptBehind deletion.form ((words text).drop (deletion.index + 1)) =
      ((words text).drop (deletion.index + 1)).dropWhile isDeleteFlag := by
    cases form : deletion.form with
    | direct => exact absurd form indirect
    | xargs => rfl
    | findExec => rfl
  apply Text.trim_of_solid
  apply solid_unwords
  · apply nonempty_replaced plain
    intro word mem
    exact isWord_of_mem_words text word (List.mem_of_mem_drop (mem_of_mem_keptBehind mem))
  · exact front_replaced plain solid _ _
  · rw [replacedWords, kept]
    cases last : (((words text).drop (deletion.index + 1)).dropWhile isDeleteFlag).getLast? with
    | none =>
        rw [List.getLast?_eq_none_iff.mp last]
        simpa using plain.solid.back
    | some word =>
        have lastWord : (words text).getLast? = some word := by
          rw [anatomy.words_eq, List.getLast?_append, List.getLast?_cons,
            ← @List.takeWhile_append_dropWhile _ isDeleteFlag ((words text).drop _),
            List.getLast?_append, last]
          rfl
        rw [List.getLast?_append, List.getLast?_cons, last]
        simpa using back_words solid word lastWord

end Anatomy

/-!
### Finding a delete again
-/

/-- A trash command that is no delete and runs none: its program is neither taken for a part of a
prefix nor one of those that run others, and none of its words is an action or the delete
command. -/
structure IsInert (trash : Text) : Prop where
  program : ∃ program arguments, words trash = program :: arguments ∧
    Prefix.IsProgram program ∧ program ≠ ("xargs" : Text) ∧ program ≠ ("find" : Text)
  ordinary : ∀ word ∈ words trash, ¬IsAction word ∧ word ≠ deleteCommand

theorem IsInert.of_platform (platform : Platform) : IsInert platform.trashCommand := by
  rw [Platform.trashCommand]
  split
  · exact ⟨⟨"gio", ["trash"], by decide, ⟨by decide, by decide, by decide⟩, by decide, by decide⟩,
      by decide⟩
  · exact ⟨⟨"trash", [], by decide, ⟨by decide, by decide, by decide⟩, by decide, by decide⟩,
      by decide⟩

theorem runsDelete_append_of_ordinary {inert : List Text}
    (ordinary : ∀ word ∈ inert, ¬IsAction word ∧ word ≠ deleteCommand) (nonempty : inert ≠ [])
    (front back : List Text) :
    RunsDelete (front ++ (inert ++ back)) ↔ RunsDelete front ∨ RunsDelete back := by
  induction inert generalizing front with
  | nil => exact absurd rfl nonempty
  | cons word rest ih =>
      obtain ⟨notAction, notDelete⟩ := ordinary word List.mem_cons_self
      rw [List.cons_append, runsDelete_append_cons notAction notDelete]
      by_cases empty : rest = []
      · rw [empty, List.nil_append]
      · have later := ih (fun other mem => ordinary other (List.mem_cons_of_mem _ mem)) empty []
        rw [List.nil_append] at later
        rw [later, or_iff_right not_runsDelete_nil]

theorem not_isAction_of_isDeleteFlag {word : Text} (flag : isDeleteFlag word = true) :
    ¬IsAction word := by
  rintro (rfl | rfl) <;> exact absurd flag (by decide)

theorem ne_deleteCommand_of_isDeleteFlag {word : Text} (flag : isDeleteFlag word = true) :
    word ≠ deleteCommand := by
  rintro rfl
  exact absurd flag (by decide)

/-- Flags announce no delete. -/
theorem runsDelete_dropWhile_isDeleteFlag (words : List Text) :
    RunsDelete (words.dropWhile isDeleteFlag) ↔ RunsDelete words := by
  by_cases none : words.takeWhile isDeleteFlag = []
  · rw [← List.nil_append (words.dropWhile isDeleteFlag), ← none,
      List.takeWhile_append_dropWhile]
  · have ordinary : ∀ word ∈ words.takeWhile isDeleteFlag,
        ¬IsAction word ∧ word ≠ deleteCommand := by
      intro word mem
      have flag := List.mem_takeWhile_imp mem
      exact ⟨not_isAction_of_isDeleteFlag flag, ne_deleteCommand_of_isDeleteFlag flag⟩
    have whole := runsDelete_append_of_ordinary ordinary none [] (words.dropWhile isDeleteFlag)
    rw [List.nil_append, List.takeWhile_append_dropWhile, or_iff_right not_runsDelete_nil] at whole
    exact whole.symm

end Deletion

/-- Behind the delete that is found in the segment, another action of find runs one more. -/
def Shell.Segment.RunsFurtherDelete (segment : Segment) : Prop :=
  ∃ deletion ∈ Deletion.inSegment? segment, deletion.form = .findExec ∧
    Deletion.RunsDelete ((segment.tokens.map Token.text).drop (deletion.index + 1))

instance decidableRunsFurtherDelete : DecidablePred Segment.RunsFurtherDelete := fun segment =>
  inferInstanceAs (Decidable (∃ deletion ∈ Deletion.inSegment? segment, _ ∧ _))

namespace Deletion

variable {text trash : Text} {deletion : Deletion}

/-- In a rewritten segment a delete is found exactly where find had a further one to run. -/
theorem Anatomy.isSome_inWords?_rewritten_iff (anatomy : Anatomy (words text) deletion)
    (plain : PlainCommand trash) (inert : IsInert trash) (solid : Text.Solid text) :
    (inWords? (words
        (Text.unwords (deletion.replacedWords (words text) trash)).trim)).isSome = true ↔
      deletion.form = .findExec ∧ RunsDelete ((words text).drop (deletion.index + 1)) := by
  obtain ⟨program, arguments, trashWords, isProgram, notXargs, notFind⟩ := inert.program
  have notDelete : program ≠ deleteCommand :=
    (inert.ordinary program (by rw [trashWords]; exact List.mem_cons_self)).2
  obtain ⟨rest, read⟩ := anatomy.words_trim plain solid
  have whole := anatomy.words_replacedWords plain
  have trimmed := anatomy.trim_replacedWords plain solid
  cases anatomy with
  | @direct before operands split targets =>
      have again := Prefix.split_append split (List.cons_ne_nil _ _) isProgram (arguments ++ rest)
      rw [take_of_split split, trashWords, List.append_assoc] at read
      have none := inWords?_eq_none_of_split (read ▸ again) notXargs notFind notDelete
      simp [none]
  | @xargs before options operands split dashed =>
      have again := Prefix.split_append split (List.cons_ne_nil _ _)
        (⟨by decide, by decide, by decide⟩ : Prefix.IsProgram "xargs")
        (options ++ program :: (arguments ++ rest))
      rw [take_of_split_cons split, trashWords] at read
      simp only [List.append_assoc, List.cons_append] at read
      have none := inWords?_of_xargs (read ▸ again) dashed isProgram.notDashed
      rw [if_neg notDelete] at none
      simp [none]
  | @findExec before front later action split isAction first =>
      -- The last word is kept here, so the words behind are read back one by one.
      rw [← trimmed (by simp)] at whole
      have again := Prefix.split_append split (List.cons_ne_nil _ _)
        (⟨by decide, by decide, by decide⟩ : Prefix.IsProgram "find")
        (front ++ [action] ++ (words trash ++
          ((words text).drop (before.length + 1 + (front.length + 1) + 1)).dropWhile isDeleteFlag))
      have found := isSome_inWords?_of_find again
      rw [runsDelete_append_of_ordinary inert.ordinary (by simp [trashWords]),
        or_iff_right first, runsDelete_dropWhile_isDeleteFlag] at found
      rw [List.append_cons front] at split
      have upToAction := take_of_split_cons split
      rw [List.length_append, List.length_singleton] at upToAction
      rw [whole, upToAction]
      simpa [keptBehind] using found

/-- In a rewritten segment a delete is found exactly where the segment runs a further one. -/
theorem isSome_inSegment?_rewritten_iff {segment : Segment} (wellformed : segment.Wellformed)
    (plain : PlainCommand trash) (inert : IsInert trash) :
    (inSegment? (segment.rewritten trash)).isSome = true ↔ segment.RunsFurtherDelete := by
  cases found : inSegment? segment with
  | none =>
      rw [wellformed.rewritten_eq_self found, found]
      simp [Segment.RunsFurtherDelete, found]
  | some deletion =>
      have anatomy := anatomy_of_inSegment? wellformed found
      have again := anatomy.isSome_inWords?_rewritten_iff plain inert wellformed.solid
      rw [Segment.rewritten, rewrittenPart_eq wellformed found, inSegment?, Segment.ofText,
        map_text_tokenize, again]
      simp [Segment.RunsFurtherDelete, found, wellformed.tokens, map_text_tokenize]

end Deletion

/-!
### The deletes of a rewritten line
-/

/-- At most one delete of a segment is replaced, so that a second action of find keeps its own. -/
theorem rewriteToTrash_leaves_second_action :
    ¬∀ (command : Text) (platform : Platform),
      Deletion.inCommand (rewriteToTrash command platform.trashCommand) = [] := by
  intro complete
  have left : Deletion.inCommand
      (rewriteToTrash "find . -exec rm a \\; -exec rm b \\;" Platform.darwin.trashCommand) ≠
        [] := by
    decide +kernel
  exact left (complete _ _)

/-- A rewritten line has a delete in exactly those segments that had a further one for find to run.
Without such a segment it has none, and to rewrite it again changes nothing. -/
theorem deletes_left_by_rewriteToTrash {command : Text}
    (noPending : NoPendingSequence (segments command)) (platform : Platform) :
    let rewritten := rewriteToTrash command platform.trashCommand
    (∀ index, (∃ deletion, (index, deletion) ∈ Deletion.inCommand rewritten) ↔
        ∃ segment, (segments command)[index]? = some segment ∧ segment.RunsFurtherDelete) ∧
      ((∀ segment ∈ segments command, ¬segment.RunsFurtherDelete) →
        Deletion.inCommand rewritten = [] ∧
          rewriteToTrash rewritten platform.trashCommand = rewritten) := by
  intro rewritten
  have plain := PlainCommand.of_platform platform
  have inert := Deletion.IsInert.of_platform platform
  have segmentwise : segments rewritten =
      (segments command).map (Segment.rewritten platform.trashCommand) :=
    segments_rewriteToTrash plain noPending
  have left : ∀ segment ∈ segments command,
      ((Deletion.inSegment? (segment.rewritten platform.trashCommand)).isSome = true ↔
        segment.RunsFurtherDelete) := fun segment mem =>
    Deletion.isSome_inSegment?_rewritten_iff (wellformed_of_mem_segments mem) plain inert
  constructor
  · intro index
    rw [Deletion.exists_mem_inCommand, segmentwise, List.getElem?_map]
    constructor
    · rintro ⟨_, stands, found⟩
      obtain ⟨segment, standsHere, rfl⟩ := Option.map_eq_some_iff.mp stands
      have mem : segment ∈ segments command := List.mem_iff_getElem?.mpr ⟨index, standsHere⟩
      exact ⟨segment, standsHere, (left segment mem).mp found⟩
    · rintro ⟨segment, stands, further⟩
      have mem : segment ∈ segments command := List.mem_iff_getElem?.mpr ⟨index, stands⟩
      exact ⟨_, Option.mem_map_of_mem _ stands, (left segment mem).mpr further⟩
  · intro noFurther
    have none : Deletion.inCommand rewritten = [] := by
      rw [Deletion.inCommand, segmentwise, Deletion.inSegments_eq_nil]
      intro segment mem
      obtain ⟨original, memOriginal, rfl⟩ := List.mem_map.mp mem
      rw [← Option.not_isSome_iff_eq_none, left original memOriginal]
      exact noFurther original memOriginal
    exact ⟨none, rewriteToTrash_of_inCommand_eq_nil none _⟩

theorem deletes_left_by_rewriteToTrash_mixed :
    let actions : Text := "find . -exec rm -f a \\; -execdir rm b \\; | xargs rm; rm -r 'c d"
    let single : Text := "A=1 sudo rm -rf -- b && ls | xargs -0 rm -f 'c d"
    let rewrite := fun command => rewriteToTrash command Platform.linux.trashCommand
    (NoPendingSequence (segments actions) ∧
        (∃ deletion, (0, deletion) ∈ Deletion.inCommand (rewrite actions)) ∧
          ¬∃ deletion, (1, deletion) ∈ Deletion.inCommand (rewrite actions)) ∧
      NoPendingSequence (segments single) ∧
        Deletion.inCommand (rewrite single) = [] ∧ rewrite (rewrite single) = rewrite single := by
  intro actions single rewrite
  have noPendingActions : NoPendingSequence (segments actions) := by
    unfold NoPendingSequence
    decide
  have noPendingSingle : NoPendingSequence (segments single) := by
    unfold NoPendingSequence
    decide
  have left := (deletes_left_by_rewriteToTrash noPendingActions Platform.linux).1
  have further : ∃ segment ∈ (segments actions)[0]?, segment.RunsFurtherDelete := by decide
  have noFurther : ¬∃ segment ∈ (segments actions)[1]?, segment.RunsFurtherDelete := by decide
  have complete := (deletes_left_by_rewriteToTrash noPendingSingle Platform.linux).2
  exact ⟨⟨noPendingActions, (left 0).mpr further, fun found => noFurther ((left 1).mp found)⟩,
    noPendingSingle, complete (by decide)⟩

end SafeDelete
