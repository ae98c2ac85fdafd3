/-
Module: SafeDelete.Proofs.Deletion.Insertion
Purpose: A rewritten line is one text with gaps, whatever the trash command: one gap for each
  delete, in its segment and where the delete command stood, and the trash command in every gap.
Main exports: Draft, Draft.fill, Draft.around, Draft.join_around, Shell.Segment.draft,
  draftSegments, draft, fill_draft, gaps_draft, rewriteToTrash_inserts_once_per_delete
-/
import SafeDelete.Proofs.Deletion.Structure

namespace SafeDelete

open Shell

/-!
### Texts with gaps

Two trash commands are compared by what their rewritten lines have in common.  That is a draft: the
line before the trash command is known, with a gap wherever it is to stand.
-/

/-- A part of a line: a text that is known, or a gap for one that is not. -/
inductive DraftPart where
  | text (text : Text)
  | gap
  deriving DecidableEq

/-- A line with gaps. -/
abbrev Draft := List DraftPart

namespace Draft

/-- The line with the same text in every gap. -/
def fill (inserted : Text) : Draft → Text
  | [] => []
  | .text text :: rest => text ++ fill inserted rest
  | .gap :: rest => inserted ++ fill inserted rest

/-- How many gaps there are. -/
def gaps : Draft → Nat
  | [] => 0
  | .text _ :: rest => gaps rest
  | .gap :: rest => gaps rest + 1

/-- The texts around the gaps: what stands before the first, between two, and behind the last. -/
def around : Draft → List Text
  | [] => [[]]
  | .text text :: rest => (around rest).modifyHead (text ++ ·)
  | .gap :: rest => [] :: around rest

variable (inserted : Text) (front back : Draft)

theorem fill_append :
    fill inserted (front ++ back) = fill inserted front ++ fill inserted back := by
  induction front with
  | nil => rfl
  | cons part rest ih =>
      cases part with
      | text text => rw [List.cons_append, fill, fill, ih, List.append_assoc]
      | gap => rw [List.cons_append, fill, fill, ih, List.append_assoc]

theorem gaps_append : gaps (front ++ back) = gaps front + gaps back := by
  induction front with
  | nil => exact (Nat.zero_add _).symm
  | cons part rest ih =>
      cases part with
      | text text => exact ih
      | gap => rw [List.cons_append, gaps, gaps, ih, Nat.add_right_comm]

/-- There is one text more than there are gaps. -/
theorem length_around (draft : Draft) : (around draft).length = gaps draft + 1 := by
  induction draft with
  | nil => rfl
  | cons part rest ih =>
      cases part with
      | text text => rw [around, List.length_modifyHead, ih, gaps]
      | gap => rw [around, List.length_cons, ih, gaps]

theorem around_ne_nil (draft : Draft) : around draft ≠ [] := by
  intro none
  have length := length_around draft
  rw [none] at length
  contradiction

theorem join_modifyHead (text : Text) {parts : List Text} (nonempty : parts ≠ []) :
    Text.join inserted (parts.modifyHead (text ++ ·)) = text ++ Text.join inserted parts := by
  match parts with
  | [] => exact absurd rfl nonempty
  | [part] => rfl
  | part :: next :: rest => simp [Text.join]

theorem join_nil_cons {parts : List Text} (nonempty : parts ≠ []) :
    Text.join inserted ([] :: parts) = inserted ++ Text.join inserted parts := by
  cases parts with
  | nil => exact absurd rfl nonempty
  | cons part rest => rfl

/-- A line is the texts around its gaps, joined by what is put into them. -/
theorem join_around (draft : Draft) : Text.join inserted (around draft) = fill inserted draft := by
  induction draft with
  | nil => rfl
  | cons part rest ih =>
      cases part with
      | text text => rw [around, join_modifyHead inserted text (around_ne_nil rest), ih, fill]
      | gap => rw [around, join_nil_cons inserted (around_ne_nil rest), ih, fill]

/-- A gap divides the texts into those around the gaps before it and those around the gaps
behind. -/
theorem around_append_gap : around (front ++ .gap :: back) = around front ++ around back := by
  induction front with
  | nil => rfl
  | cons part rest ih =>
      cases part with
      | text text =>
          rw [List.cons_append, around, around, ih]
          obtain ⟨first, later, eq⟩ := List.exists_cons_of_ne_nil (around_ne_nil rest)
          rw [eq]
          rfl
      | gap => rw [List.cons_append, around, around, ih, List.cons_append]

end Draft

/-!
### The draft of a rewritten line
-/

namespace Deletion

/-- What stands before the trash command in a rewritten segment: the words before the delete
command, with a blank behind each. -/
def textBefore (deletion : Deletion) (segment : Segment) : Text :=
  ((words segment.raw).take deletion.index).flatMap (· ++ [' '])

/-- What stands behind the trash command in a rewritten segment: what is kept of the words behind
the delete command, with a blank before each. -/
def textBehind (deletion : Deletion) (segment : Segment) : Text :=
  (keptBehind deletion.form ((words segment.raw).drop (deletion.index + 1))).flatMap (' ' :: ·)

/-- The trash command stands between what is before it and what is behind it, and neither depends on
it. -/
theorem rewriteSegment_eq_around {segment : Segment} {deletion : Deletion}
    (wellformed : segment.Wellformed) (found : inSegment? segment = some deletion) (trash : Text) :
    deletion.rewriteSegment segment trash =
      deletion.textBefore segment ++ (trash ++ deletion.textBehind segment) := by
  rw [rewriteSegment_eq wellformed found, replacedWords, unwords_append_cons]
  rfl

/-- Before the trash command stand exactly the words that were before the delete command. -/
theorem words_textBefore {segment : Segment} {deletion : Deletion}
    (anatomy : Anatomy (words segment.raw) deletion) :
    words (deletion.textBefore segment) = (words segment.raw).take deletion.index := by
  have closed := anatomy.closed_before
  have isWord : ∀ word ∈ (words segment.raw).take deletion.index, IsWord word := fun word mem =>
    isWord_of_mem_words segment.raw word (List.mem_of_mem_take mem)
  rw [textBefore]
  generalize (words segment.raw).take deletion.index = before at closed isWord
  induction before with
  | nil => rfl
  | cons word before ih =>
      have later := ih (fun other mem => closed other (List.mem_cons_of_mem _ mem))
        fun other mem => isWord other (List.mem_cons_of_mem _ mem)
      rw [List.flatMap_cons, List.append_assoc]
      exact (words_append_separator (closed word List.mem_cons_self) rfl _).trans
        (congrArg₂ (· ++ ·) (isWord word List.mem_cons_self).words_eq later)

end Deletion

/-- A segment as it stands in the rewritten line, with a gap for the trash command. -/
def Shell.Segment.draft (segment : Segment) : Draft :=
  match Deletion.inSegment? segment with
  | some deletion =>
    [.text (deletion.textBefore segment), .gap, .text (deletion.textBehind segment)]
  | none => [.text segment.raw]

/-- Segments that come behind others, as they stand in the rewritten line. -/
def draftLater (later : List Segment) : Draft :=
  later.flatMap fun segment => .text segment.lead :: segment.draft

/-- The segments of a command line put together again, with a gap for each delete. -/
def draftSegments : List Segment → Draft
  | [] => []
  | first :: later => first.draft ++ draftLater later

/-- A rewritten line with gaps; without a delete, the line as it is. -/
def draft (command : Text) : Draft :=
  if (Deletion.inCommand command).isEmpty then [.text command]
  else draftSegments (segments command)

theorem fill_segment_draft {segment : Segment} (wellformed : segment.Wellformed) (trash : Text) :
    segment.draft.fill trash = rewrittenPart trash segment := by
  rw [Segment.draft, rewrittenPart]
  cases found : Deletion.inSegment? segment with
  | none => simp [Draft.fill]
  | some deletion =>
      simp [Draft.fill, Deletion.rewriteSegment_eq_around wellformed found]

theorem fill_draftLater {later : List Segment}
    (wellformed : ∀ segment ∈ later, segment.Wellformed) (trash : Text) :
    (draftLater later).fill trash =
      later.flatMap fun segment => segment.lead ++ rewrittenPart trash segment := by
  induction later with
  | nil => rfl
  | cons segment later ih =>
      have rest := ih fun next mem => wellformed next (List.mem_cons_of_mem _ mem)
      rw [draftLater] at rest ⊢
      rw [List.flatMap_cons, List.flatMap_cons, Draft.fill_append, Draft.fill,
        fill_segment_draft (wellformed segment List.mem_cons_self), rest]

theorem fill_draftSegments {line : List Segment}
    (wellformed : ∀ segment ∈ line, segment.Wellformed) (trash : Text) :
    (draftSegments line).fill trash = rewriteSegments trash line := by
  cases line with
  | nil => rfl
  | cons first later =>
      rw [draftSegments, Draft.fill_append, rewriteSegments,
        fill_segment_draft (wellformed first List.mem_cons_self),
        fill_draftLater fun segment mem => wellformed segment (List.mem_cons_of_mem _ mem)]

/-- A line is rewritten by putting the trash command into every gap of one and the same draft. -/
theorem fill_draft (command trash : Text) :
    (draft command).fill trash = rewriteToTrash command trash := by
  by_cases none : Deletion.inCommand command = []
  · rw [rewriteToTrash_of_inCommand_eq_nil none, draft, none]
    simp [Draft.fill]
  · rw [rewriteToTrash_of_inCommand_ne_nil none, draft, if_neg (by simpa using none),
      fill_draftSegments fun _ => wellformed_of_mem_segments]

/-!
### One gap for each delete
-/

theorem gaps_segment_draft (segment : Segment) (index : Nat) :
    segment.draft.gaps =
      ((Deletion.inSegment? segment).map fun deletion => (index, deletion)).toList.length := by
  rw [Segment.draft]
  cases Deletion.inSegment? segment with
  | none => rfl
  | some deletion => rfl

theorem gaps_draftLater (later : List Segment) (start : Nat) :
    (draftLater later).gaps = (Deletion.inSegmentsFrom start later).length := by
  induction later generalizing start with
  | nil => rfl
  | cons segment later ih =>
      have rest := ih (start + 1)
      rw [draftLater] at rest ⊢
      rw [List.flatMap_cons, Draft.gaps_append, Draft.gaps, gaps_segment_draft segment start, rest,
        Deletion.inSegmentsFrom, List.length_append]

theorem gaps_draftSegments (line : List Segment) :
    (draftSegments line).gaps = (Deletion.inSegments line).length := by
  cases line with
  | nil => rfl
  | cons first later =>
      rw [draftSegments, Draft.gaps_append, gaps_segment_draft first 0, gaps_draftLater later 1,
        Deletion.inSegments, Deletion.inSegmentsFrom, List.length_append]

theorem gaps_draft (command : Text) :
    (draft command).gaps = (Deletion.inCommand command).length := by
  rw [draft]
  split
  · rename_i none
    rw [List.isEmpty_iff.mp none]
    rfl
  · exact gaps_draftSegments _

/-!
### Where the gaps are
-/

/-- What stands before a segment that comes behind others; nothing, if it is the first. -/
def Shell.Segment.leadBehind (front : List Segment) (segment : Segment) : Text :=
  if front.isEmpty then [] else segment.lead

/-- The draft of a line up to one of its segments has the gaps of the segments before. -/
theorem exists_draft_before (front : List Segment) (segment : Segment) (later : List Segment)
    (wellformed : ∀ other ∈ front, other.Wellformed) :
    ∃ before : Draft,
      draftSegments (front ++ segment :: later) = before ++ (segment.draft ++ draftLater later) ∧
        before.gaps = (Deletion.inSegments front).length ∧
          ∀ trash, before.fill trash = rewriteSegments trash front ++ segment.leadBehind front := by
  cases front with
  | nil => exact ⟨[], rfl, rfl, fun trash => rfl⟩
  | cons first rest =>
      refine ⟨draftSegments (first :: rest) ++ [.text segment.lead], ?_, ?_, fun trash => ?_⟩
      · simp [draftSegments, draftLater]
      · rw [Draft.gaps_append, gaps_draftSegments]
        rfl
      · rw [Draft.fill_append, fill_draftSegments wellformed]
        simp [Draft.fill, Segment.leadBehind]

namespace Deletion

/-- A delete that is listed is in a segment, and those listed before it are in the segments
before. -/
theorem exists_of_getElem?_inSegmentsFrom {line : List Segment} {start count index : Nat}
    {deletion : Deletion}
    (listed : (inSegmentsFrom start line)[count]? = some (index, deletion)) :
    ∃ front segment later, line = front ++ segment :: later ∧ start + front.length = index ∧
      inSegment? segment = some deletion ∧ (inSegmentsFrom start front).length = count := by
  induction line generalizing start count with
  | nil => simp [inSegmentsFrom] at listed
  | cons first line ih =>
      rw [inSegmentsFrom] at listed
      cases found : inSegment? first with
      | none =>
          rw [found, Option.map_none, Option.toList_none, List.nil_append] at listed
          obtain ⟨front, segment, later, rfl, rfl, here, before⟩ := ih listed
          refine ⟨first :: front, segment, later, rfl, ?_, here, ?_⟩
          · rw [List.length_cons]
            omega
          · simpa [inSegmentsFrom, found] using before
      | some other =>
          rw [found, Option.map_some, Option.toList_some, List.singleton_append] at listed
          cases count with
          | zero =>
              obtain ⟨rfl, rfl⟩ := Prod.mk.inj (Option.some.inj listed)
              exact ⟨[], first, line, rfl, rfl, found, rfl⟩
          | succ count =>
              obtain ⟨front, segment, later, rfl, rfl, here, before⟩ := ih listed
              refine ⟨first :: front, segment, later, rfl, ?_, here, ?_⟩
              · rw [List.length_cons]
                omega
              · simpa [inSegmentsFrom, found] using before

/-- Of the texts that stand around the trash commands of a rewritten line, those up to the place
`count` and those from there on meet where the delete command of one segment stood: before it are
the rewritten segments before and the words of this one, behind it what is kept of this one and the
rewritten segments after. -/
structure IsReplacedAt (deletion : Deletion) (texts : List Text) (count : Nat)
    (front : List Segment) (segment : Segment) (later : List Segment) : Prop where
  /-- The word in this place was the delete command. -/
  stood : (words segment.raw)[deletion.index]? = some deleteCommand
  /-- Before it are the words that were before the delete command. -/
  wordsBefore : words (deletion.textBefore segment) = (words segment.raw).take deletion.index
  part : ∀ trash, deletion.rewriteSegment segment trash =
    deletion.textBefore segment ++ trash ++ deletion.textBehind segment
  before : ∀ trash, Text.join trash (texts.take (count + 1)) =
    rewriteSegments trash front ++ segment.leadBehind front ++ deletion.textBefore segment
  behind : ∀ trash, Text.join trash (texts.drop (count + 1)) =
    deletion.textBehind segment ++
      later.flatMap fun next => next.lead ++ rewrittenPart trash next

theorem isReplacedAt_around {front later : List Segment} {segment : Segment} {deletion : Deletion}
    (wellformed : ∀ other ∈ front ++ segment :: later, other.Wellformed)
    (found : inSegment? segment = some deletion) :
    deletion.IsReplacedAt (draftSegments (front ++ segment :: later)).around
      (inSegments front).length front segment later := by
  have wellformedHere : segment.Wellformed := wellformed segment (by simp)
  have wellformedLater : ∀ next ∈ later, next.Wellformed := fun next mem =>
    wellformed next (by simp [mem])
  have anatomy := anatomy_of_inSegment? wellformedHere found
  obtain ⟨before, split, gaps, filled⟩ := exists_draft_before front segment later
    fun other mem => wellformed other (by simp [mem])
  -- The gap of this segment divides the draft of the line.
  have divided : (draftSegments (front ++ segment :: later)).around =
      (before ++ [DraftPart.text (deletion.textBefore segment)]).around ++
        Draft.around (.text (deletion.textBehind segment) :: draftLater later) := by
    rw [← Draft.around_append_gap, split, Segment.draft, found]
    simp
  have length : (before ++ [DraftPart.text (deletion.textBefore segment)]).around.length =
      (inSegments front).length + 1 := by
    rw [Draft.length_around, Draft.gaps_append, gaps]
    rfl
  rw [divided]
  constructor
  · exact anatomy.getElem?_index
  · exact words_textBefore anatomy
  · intro trash
    rw [rewriteSegment_eq_around wellformedHere found, List.append_assoc]
  · intro trash
    rw [List.take_left' length, Draft.join_around, Draft.fill_append, filled]
    simp [Draft.fill]
  · intro trash
    rw [List.drop_left' length, Draft.join_around, Draft.fill, fill_draftLater wellformedLater]

end Deletion

/-- A rewritten line is made of texts that do not depend on the trash command, with the trash
command between every two of them: once for each delete, in the segment of that delete and in the
place of its delete command. -/
theorem rewriteToTrash_inserts_once_per_delete (command : Text) :
    ∃ texts : List Text,
      texts.length = (Deletion.inCommand command).length + 1 ∧
        (∀ trash, rewriteToTrash command trash = Text.join trash texts) ∧
          ∀ (count index : Nat) (deletion : Deletion),
            (Deletion.inCommand command)[count]? = some (index, deletion) →
              ∃ front segment later,
                segments command = front ++ segment :: later ∧ front.length = index ∧
                  Deletion.inSegment? segment = some deletion ∧
                    deletion.IsReplacedAt texts count front segment later := by
  refine ⟨(draft command).around, ?_, fun trash => ?_, fun count index deletion listed => ?_⟩
  · rw [Draft.length_around, gaps_draft]
  · rw [Draft.join_around, fill_draft]
  · have some : Deletion.inCommand command ≠ [] := by
      intro none
      simp [none] at listed
    obtain ⟨front, segment, later, line, rfl, found, rfl⟩ :=
      Deletion.exists_of_getElem?_inSegmentsFrom listed
    have drafted : draft command = draftSegments (front ++ segment :: later) := by
      rw [draft, if_neg (by simpa using some), line]
    refine ⟨front, segment, later, line, (Nat.zero_add _).symm, found, ?_⟩
    rw [drafted]
    refine Deletion.isReplacedAt_around (fun other mem => ?_) found
    rw [← line] at mem
    exact wellformed_of_mem_segments mem

theorem rewriteToTrash_inserts_mixed :
    let command : Text := "A=1 sudo -n rm -rf -- -x;ls && find . -exec rm -f \x7b\x7d +|xargs rm"
    let deletion : Deletion := ⟨.findExec, 3, .empty, ⟨[], false⟩⟩
    (Deletion.inCommand command)[1]? = some (2, deletion) ∧
      ∃ texts : List Text, texts.length = 4 ∧
        (∀ trash, rewriteToTrash command trash = Text.join trash texts) ∧
          Text.join "gio trash" (texts.take 2) =
            "A=1 sudo -n gio trash -- -x; ls && find . -exec " := by
  intro command deletion
  have listed : (Deletion.inCommand command)[1]? = some (2, deletion) := by decide
  have line : segments command =
      (segments command).take 2 ++
        .ofText (some .and) "find . -exec rm -f \x7b\x7d +" :: (segments command).drop 3 := by
    decide
  obtain ⟨texts, length, joined, placed⟩ := rewriteToTrash_inserts_once_per_delete command
  obtain ⟨front, segment, later, split, before, -, replaced⟩ := placed 1 2 deletion listed
  obtain ⟨sameFront, sameBack⟩ := List.append_inj (line.symm.trans split) before.symm
  obtain ⟨rfl, -⟩ := List.cons.inj sameBack
  refine ⟨listed, texts, length, joined, ?_⟩
  rw [replaced.before, ← sameFront]
  decide

end SafeDelete
