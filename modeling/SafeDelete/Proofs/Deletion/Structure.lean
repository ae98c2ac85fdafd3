/-
Module: SafeDelete.Proofs.Deletion.Structure
Purpose: A rewritten command line is read back segment by segment.
Main exports: Shell.Segment.endsPending, Shell.Segment.Precedes, Shell.splitPieces_between,
  Shell.Segment.rewritten, splitPieces_rewriteSegments, NoPendingSequence,
  segments_rewriteToTrash, Shell.Segment.RewrittenAs, rewriteToTrash_keeps_structure
-/
import Mathlib.Data.List.Chain
import Mathlib.Data.List.Forall2
import SafeDelete.Proofs.Deletion.Replacement

namespace SafeDelete

open Shell

/-!
### Operators between two commands

An operator is printed with a blank at either side, and a semicolon without the one before it.  That
blank is what keeps an operator an operator behind a segment that ends with a pending escape: the
escape takes the blank.
-/

namespace Shell

/-- A segment whose last character is a backslash that escapes what follows. -/
def Segment.endsPending (segment : Segment) : Bool :=
  (ScanMode.plain.run segment.raw).isPending

/-- What is printed before an operator. -/
def Operator.padding : Operator → Text
  | .sequence => []
  | _ => " "

theorem Operator.isBlank_padding (operator : Operator) :
    Text.isBlank operator.padding = true := by
  cases operator <;> decide

/-- The mode in which an operator that is printed is still read as one. -/
def Operator.ReadableIn (operator : Operator) (mode : ScanMode) : Prop :=
  mode = .plain ∨ mode = .escaped ∧ operator ≠ .sequence

theorem splitPieces_space {mode : ScanMode} (closed : mode.step ' ' = .plain) (text : Text) :
    splitPieces mode (' ' :: text) =
      (' ' :: (splitPieces .plain text).1, (splitPieces .plain text).2) := by
  rw [splitPieces_cons fun _ => by cases text <;> rfl, closed]

theorem splitPieces_operator (operator : Operator) (text : Text) :
    splitPieces .plain (operator.text ++ ' ' :: text) =
      ([], (operator, ' ' :: (splitPieces .plain text).1) :: (splitPieces .plain text).2) := by
  have found : operatorAt? (operator.text ++ ' ' :: text) = some (operator, ' ' :: text) := by
    cases operator <;> rfl
  rw [splitPieces_of_operatorAt? found, splitPieces_space rfl, Pieces.startWith]

/-- An operator that is printed where it is readable begins a new piece. -/
theorem splitPieces_operator_between {operator : Operator} {mode : ScanMode}
    (readable : operator.ReadableIn mode) (text : Text) :
    splitPieces mode (operator.between ++ text) =
      (operator.padding,
        (operator, ' ' :: (splitPieces .plain text).1) :: (splitPieces .plain text).2) := by
  have cut := splitPieces_operator operator text
  have closed : mode.step ' ' = .plain := by
    rcases readable with rfl | ⟨rfl, _⟩ <;> rfl
  have spaced := splitPieces_space closed (operator.text ++ ' ' :: text)
  rw [cut] at spaced
  cases operator with
  | sequence =>
      obtain rfl : mode = .plain := readable.resolve_right fun escaped => escaped.2 rfl
      exact cut
  | and => exact spaced
  | or => exact spaced
  | pipe => exact spaced

/-- A printed operator cuts a line in two. -/
theorem splitPieces_between {front : Text} {operator : Operator} (uncut : Uncut .plain front)
    (readable : operator.ReadableIn (ScanMode.plain.run front)) (back : Text) :
    splitPieces .plain (front ++ (operator.between ++ back)) =
      (front ++ operator.padding,
        (operator, ' ' :: (splitPieces .plain back).1) :: (splitPieces .plain back).2) := by
  have start : (operator.between ++ back).head? ≠ some '&' := by
    cases operator <;> simp [Operator.between, Operator.text]
  rw [splitPieces_append_of_uncut uncut start, splitPieces_operator_between readable]

end Shell

/-!
### One segment
-/

namespace Shell.Segment

/-- The segment as it stands in the rewritten line. -/
def rewritten (trash : Text) (segment : Segment) : Segment :=
  ofText segment.operator (rewrittenPart trash segment)

variable {trash : Text} {segment : Segment}

theorem Wellformed.uncut_rewrittenPart (wellformed : segment.Wellformed)
    (plain : PlainCommand trash) : Uncut .plain (rewrittenPart trash segment) := by
  cases found : Deletion.inSegment? segment with
  | none =>
      rw [Deletion.rewrittenPart_of_none found]
      exact wellformed.uncut
  | some deletion =>
      have anatomy := Deletion.anatomy_of_inSegment? wellformed found
      rw [Deletion.rewrittenPart_eq wellformed found]
      exact anatomy.uncut_replacedWords plain wellformed.uncut

theorem Wellformed.run_rewrittenPart (wellformed : segment.Wellformed)
    (plain : PlainCommand trash) :
    ScanMode.plain.run (rewrittenPart trash segment) = ScanMode.plain.run segment.raw := by
  cases found : Deletion.inSegment? segment with
  | none => rw [Deletion.rewrittenPart_of_none found]
  | some deletion =>
      have anatomy := Deletion.anatomy_of_inSegment? wellformed found
      rw [Deletion.rewrittenPart_eq wellformed found]
      exact anatomy.run_replacedWords plain

theorem Wellformed.trim_rewrittenPart_ne_nil (wellformed : segment.Wellformed)
    (plain : PlainCommand trash) : (rewrittenPart trash segment).trim ≠ [] := by
  cases found : Deletion.inSegment? segment with
  | none =>
      rw [Deletion.rewrittenPart_of_none found, Text.trim_of_solid wellformed.solid]
      exact wellformed.nonempty
  | some deletion =>
      rw [Deletion.rewrittenPart_eq wellformed found]
      intro empty
      have blank : Text.isBlank trash = true := Text.isBlank_iff.mpr fun c mem =>
        Text.isBlank_iff.mp (Text.trim_eq_nil_iff.mp empty) c
          (mem_unwords (by simp [Deletion.replacedWords]) mem)
      rw [← Text.trim_eq_nil_iff, plain.trimmed] at blank
      exact plain.nonempty blank

/-- A segment without a delete stays as it is. -/
theorem Wellformed.rewritten_eq_self (wellformed : segment.Wellformed)
    (none : Deletion.inSegment? segment = none) : segment.rewritten trash = segment := by
  rw [rewritten, Deletion.rewrittenPart_of_none none, ofText,
    Text.trim_of_solid wellformed.solid, ← wellformed.tokens]

end Shell.Segment

/-!
### A whole line
-/

/-- A segment that another may follow in print: it leaves the scanner where the operator of the
other is readable. -/
def Shell.Segment.Precedes (segment next : Segment) : Prop :=
  ∃ operator, next.operator = some operator ∧
    operator.ReadableIn (ScanMode.plain.run segment.raw)

theorem rewriteSegments_cons_cons {trash : Text} {first next : Segment} {later : List Segment}
    {operator : Operator} (before : next.operator = some operator) :
    rewriteSegments trash (first :: next :: later) =
      rewrittenPart trash first ++
        (operator.between ++ rewriteSegments trash (next :: later)) := by
  simp only [rewriteSegments, List.flatMap_cons, Segment.lead, before, List.append_assoc]

/-- The pieces of a rewritten line are its parts, apart from blanks around them. -/
theorem splitPieces_rewriteSegments {trash : Text} (plain : PlainCommand trash) {first : Segment}
    {later : List Segment} (wellformed : ∀ segment ∈ first :: later, segment.Wellformed)
    (chain : (first :: later).IsChain Segment.Precedes) :
    (splitPieces .plain (rewriteSegments trash (first :: later))).1.trim =
        (rewrittenPart trash first).trim ∧
      (splitPieces .plain (rewriteSegments trash (first :: later))).2.map
          (fun piece => (some piece.1, piece.2.trim)) =
        later.map fun segment => (segment.operator, (rewrittenPart trash segment).trim) := by
  have wellformedFirst := wellformed first List.mem_cons_self
  have uncut := wellformedFirst.uncut_rewrittenPart plain
  induction later generalizing first with
  | nil =>
      have single : rewriteSegments trash [first] = rewrittenPart trash first := by
        simp [rewriteSegments]
      rw [single, splitPieces_of_uncut uncut]
      exact ⟨rfl, rfl⟩
  | cons next later ih =>
      rw [List.isChain_cons_cons] at chain
      obtain ⟨⟨operator, before, readable⟩, chainLater⟩ := chain
      have wellformedLater : ∀ segment ∈ next :: later, segment.Wellformed := fun segment mem =>
        wellformed segment (List.mem_cons_of_mem _ mem)
      have wellformedNext := wellformedLater next List.mem_cons_self
      obtain ⟨trimNext, trimLater⟩ := ih wellformedLater chainLater wellformedNext
        (wellformedNext.uncut_rewrittenPart plain)
      rw [← wellformedFirst.run_rewrittenPart plain] at readable
      rw [rewriteSegments_cons_cons before, splitPieces_between uncut readable]
      refine ⟨Text.trim_append_of_blank _ operator.isBlank_padding, ?_⟩
      have unpadded := @Text.trim_blank_append " " (by decide)
        (splitPieces .plain (rewriteSegments trash (next :: later))).1
      rw [List.map_cons, List.map_cons, trimLater, before, ← trimNext, ← unpadded]
      rfl

/-- Segments that may follow one another are read back from print, each with its part. -/
theorem segments_rewriteSegments {trash : Text} (plain : PlainCommand trash) {line : List Segment}
    (wellformed : ∀ segment ∈ line, segment.Wellformed) (chain : line.IsChain Segment.Precedes)
    (head : ∀ first ∈ line.head?, first.operator = none) :
    segments (rewriteSegments trash line) = line.map (Segment.rewritten trash) := by
  cases line with
  | nil => rfl
  | cons first later =>
      obtain ⟨trimFirst, trimLater⟩ := splitPieces_rewriteSegments plain wellformed chain
      have noOperator : first.operator = none := head first rfl
      have trimmed : (pieces (rewriteSegments trash (first :: later))).map
            (fun piece => (piece.1, piece.2.trim)) =
          (first :: later).map fun segment =>
            (segment.operator, (rewrittenPart trash segment).trim) := by
        rw [pieces, List.map_cons, List.map_cons, List.map_map, trimFirst, noOperator, ← trimLater]
        rfl
      have visible : ∀ piece ∈ (first :: later).map fun segment =>
          (segment.operator, (rewrittenPart trash segment).trim), (!piece.2.isEmpty) = true := by
        intro piece mem
        obtain ⟨segment, memLine, rfl⟩ := List.mem_map.mp mem
        simpa using (wellformed segment memLine).trim_rewrittenPart_ne_nil plain
      rw [segments_eq_ofPieces_trimmed, trimmedPieces, trimmed, List.filter_eq_self.mpr visible,
        List.map_cons, Segment.ofPieces, List.map_map]
      simp only [Function.comp_def, Segment.ofText_trim, ← noOperator]
      rfl

/-- No segment that a semicolon follows ends with a pending escape. -/
def NoPendingSequence (line : List Segment) : Prop :=
  line.IsChain fun segment next =>
    next.operator = some .sequence → segment.endsPending = false

theorem precedes_of_noPendingSequence {command : Text}
    (noPending : NoPendingSequence (segments command)) :
    (segments command).IsChain Segment.Precedes := by
  rw [List.isChain_iff_getElem]
  intro index inside
  obtain ⟨mode, hasOperator⟩ :=
    List.isChain_iff_getElem.mp (segments_pairwise command).isChain index inside
  have sequence := List.isChain_iff_getElem.mp noPending index inside
  obtain ⟨operator, before⟩ := Option.ne_none_iff_exists'.mp hasOperator
  refine ⟨operator, before, mode.imp_right fun escaped => ⟨escaped, ?_⟩⟩
  rintro rfl
  have notPending := sequence before
  rw [Segment.endsPending, escaped] at notPending
  contradiction

/-- Where nothing is deleted, nothing is rewritten. -/
theorem rewriteToTrash_of_inCommand_eq_nil {command : Text}
    (none : Deletion.inCommand command = []) (trash : Text) :
    rewriteToTrash command trash = command := by
  rw [rewriteToTrash]
  exact if_pos (List.isEmpty_iff.mpr none)

theorem rewriteToTrash_of_inCommand_ne_nil {command : Text}
    (some : Deletion.inCommand command ≠ []) (trash : Text) :
    rewriteToTrash command trash = rewriteSegments trash (segments command) := by
  rw [rewriteToTrash]
  exact if_neg fun empty => some (List.isEmpty_iff.mp empty)

/-- A rewritten command line has the segments of the original, each rewritten by itself. -/
theorem segments_rewriteToTrash {command trash : Text} (plain : PlainCommand trash)
    (noPending : NoPendingSequence (segments command)) :
    segments (rewriteToTrash command trash) =
      (segments command).map (Segment.rewritten trash) := by
  have wellformed : ∀ segment ∈ segments command, segment.Wellformed := fun _ =>
    wellformed_of_mem_segments
  by_cases none : Deletion.inCommand command = []
  · rw [rewriteToTrash_of_inCommand_eq_nil none]
    rw [Deletion.inCommand, Deletion.inSegments_eq_nil] at none
    refine (List.map_id _).symm.trans (List.map_congr_left fun segment mem => ?_)
    exact ((wellformed segment mem).rewritten_eq_self (none segment mem)).symm
  · rw [rewriteToTrash_of_inCommand_ne_nil none]
    refine segments_rewriteSegments plain wellformed (precedes_of_noPendingSequence noPending) ?_
    intro first mem
    obtain ⟨later, eq⟩ := List.head?_eq_some_iff.mp mem
    exact operator_head_segments eq

/-- The escape at the end of a trimmed segment takes a semicolon that is printed right behind it. -/
example : segments (rewriteToTrash "ls a\\ ; rm b" "trash") =
    [Segment.ofText none "ls a\\; trash b"] := by
  decide +kernel

/-- What a segment becomes in a rewritten line: its operator stays, and so does its text where
nothing is deleted; where something is, its text is the trimmed rewritten one. -/
structure Shell.Segment.RewrittenAs (trash : Text) (before after : Segment) : Prop where
  operator : after.operator = before.operator
  unmatched : Deletion.inSegment? before = none → after.raw = before.raw
  matched : ∀ deletion, Deletion.inSegment? before = some deletion →
    after.raw = (deletion.rewriteSegment before trash).trim

theorem Shell.Segment.Wellformed.rewrittenAs {trash : Text} {segment : Segment}
    (wellformed : segment.Wellformed) : segment.RewrittenAs trash (segment.rewritten trash) where
  operator := rfl
  unmatched none := by rw [wellformed.rewritten_eq_self none]
  matched deletion found := by rw [Segment.rewritten, rewrittenPart, found]; rfl

/-- A rewritten command line has as many segments as the original, in the same order and with the
same operators. -/
theorem rewriteToTrash_keeps_structure {command trash : Text} (plain : PlainCommand trash)
    (noPending : ∀ segment ∈ (segments command).dropLast, segment.endsPending = false) :
    List.Forall₂ (Segment.RewrittenAs trash) (segments command)
      (segments (rewriteToTrash command trash)) := by
  have sequence : NoPendingSequence (segments command) := by
    apply List.isChain_iff_getElem.mpr
    intro index inside _
    apply noPending
    refine List.mem_iff_getElem.mpr ⟨index, ?_, List.getElem_dropLast _⟩
    rw [List.length_dropLast]
    omega
  rw [segments_rewriteToTrash plain sequence, List.forall₂_map_right_iff, List.forall₂_same]
  exact fun segment mem => (wellformed_of_mem_segments mem).rewrittenAs

theorem rewriteToTrash_keeps_structure_mixed :
    let command : Text := "ls a\\ b;;rm -f 'c ; d'&&echo e | xargs -0 rm -r f -- \"g"
    PlainCommand "gio trash" ∧
      (∀ segment ∈ (segments command).dropLast, segment.endsPending = false) ∧
        List.Forall₂ (Segment.RewrittenAs "gio trash") (segments command)
          (segments (rewriteToTrash command "gio trash")) := by
  intro command
  have plain : PlainCommand "gio trash" := PlainCommand.of_platform Platform.linux
  have noPending : ∀ segment ∈ (segments command).dropLast, segment.endsPending = false := by
    decide
  exact ⟨plain, noPending, rewriteToTrash_keeps_structure plain noPending⟩

end SafeDelete
