/-
Module: SafeDelete.Proofs.Deletion.Joining
Purpose: Two command lines that an operator joins are searched and rewritten each by itself.
Main exports: Shell.Pieces.continuedBy, Shell.splitPieces_append_of_closed, Shell.joined,
  Shell.segments_joined, Deletion.inCommand_joined, rewriteToTrash_joined, joined_lines_compose
-/
import SafeDelete.Proofs.Deletion.Structure

namespace SafeDelete

open Shell

namespace Shell

/-!
### Pieces of texts that are put behind each other
-/

/-- Pieces whose last one goes on with the first of others. -/
def Pieces.continuedBy (back : Pieces) (text : Text) : List (Operator × Text) → Pieces
  | [] => (text ++ back.1, back.2)
  | (operator, next) :: later =>
    let rest := continuedBy back next later
    (text, (operator, rest.1) :: rest.2)

theorem Pieces.continuedBy_cons (back : Pieces) (c : Char) (text : Text)
    (later : List (Operator × Text)) :
    continuedBy back (c :: text) later =
      (c :: (continuedBy back text later).1, (continuedBy back text later).2) := by
  cases later <;> rfl

/-- A text that ends outside quotes and escapes is cut by itself, if no character of an operator
follows. -/
theorem splitPieces_append_of_closed {mode : ScanMode} {front back : Text}
    (closed : mode.run front = .plain) (start : ∀ c ∈ back.head?, c ≠ '&' ∧ c ≠ '|') :
    splitPieces mode (front ++ back) =
      (splitPieces .plain back).continuedBy (splitPieces mode front).1
        (splitPieces mode front).2 := by
  fun_induction splitPieces mode front with
  | case1 mode =>
      obtain rfl : mode = .plain := closed
      rfl
  | case2 rest ih =>
      exact (splitPieces_of_operatorAt? rfl).trans (congrArg (Pieces.startWith .and) (ih closed))
  | case3 rest ih =>
      exact (splitPieces_of_operatorAt? rfl).trans (congrArg (Pieces.startWith .or) (ih closed))
  | case4 rest single ih =>
      have found : operatorAt? ('|' :: (rest ++ back)) = some (.pipe, rest ++ back) := by
        unfold operatorAt?
        cases rest with
        | nil => cases back <;> simp_all
        | cons d rest => simp_all
      exact (splitPieces_of_operatorAt? found).trans
        (congrArg (Pieces.startWith .pipe) (ih closed))
  | case5 rest ih =>
      exact (splitPieces_of_operatorAt? rfl).trans
        (congrArg (Pieces.startWith .sequence) (ih closed))
  | case6 mode c rest notAnd notOr notPipe notSequence text later split ih =>
      have none : mode = .plain → operatorAt? (c :: rest) = none := by
        intro plain
        unfold operatorAt?
        split <;> simp_all
      rw [List.cons_append, splitPieces_cons, ih closed, split, Pieces.continuedBy_cons]
      intro plain
      exact operatorAt?_append (none plain) fun ampersand => (start '&' ampersand).1 rfl

/-- Two command lines with an operator between them. -/
def joined (first : Text) (operator : Operator) (second : Text) : Text :=
  first ++ " " ++ operator.text ++ " " ++ second

/-- The pieces of a command line that follows an operator. -/
def piecesAfter (operator : Operator) (command : Text) : List (Option Operator × Text) :=
  (some operator, (splitPieces .plain command).1) ::
    (splitPieces .plain command).2.map fun (operator, text) => (some operator, text)

/-- Blanks at the end of the last piece are trimmed. -/
theorem Pieces.trim_continuedBy {blanks : Text} (blank : Text.isBlank blanks = true)
    (others : List (Operator × Text)) (text : Text) (later : List (Operator × Text)) :
    (continuedBy (blanks, others) text later).1.trim = text.trim ∧
      (continuedBy (blanks, others) text later).2.map (fun piece => (piece.1, piece.2.trim)) =
        (later ++ others).map fun piece => (piece.1, piece.2.trim) := by
  induction later generalizing text with
  | nil => exact ⟨Text.trim_append_of_blank text blank, rfl⟩
  | cons piece later ih =>
      obtain ⟨operator, next⟩ := piece
      obtain ⟨trimNext, trimLater⟩ := ih next
      refine ⟨rfl, ?_⟩
      rw [continuedBy, List.map_cons, trimNext, trimLater]
      rfl

/-- The pieces of two lines that are joined are those of the first and those of the second, apart
from blanks around them. -/
theorem pieces_joined {first : Text} (closed : Closed first) (operator : Operator) (second : Text) :
    (pieces (joined first operator second)).map (fun piece => (piece.1, piece.2.trim)) =
      (pieces first ++ piecesAfter operator second).map fun piece => (piece.1, piece.2.trim) := by
  have line : joined first operator second =
      first ++ (' ' :: (operator.text ++ ' ' :: second)) := by
    simp [joined]
  have split : splitPieces .plain (joined first operator second) =
      Pieces.continuedBy
        (" ", (operator, ' ' :: (splitPieces .plain second).1) :: (splitPieces .plain second).2)
        (splitPieces .plain first).1 (splitPieces .plain first).2 := by
    rw [line, splitPieces_append_of_closed closed (by simp), splitPieces_space rfl,
      splitPieces_operator]
    rfl
  obtain ⟨trimFirst, trimLater⟩ := @Pieces.trim_continuedBy " " (by decide)
    ((operator, ' ' :: (splitPieces .plain second).1) :: (splitPieces .plain second).2)
    (splitPieces .plain first).1 (splitPieces .plain first).2
  have unpadded : Text.trim (' ' :: (splitPieces .plain second).1) =
      Text.trim (splitPieces .plain second).1 :=
    @Text.trim_blank_append " " (by decide) (splitPieces .plain second).1
  have labelled := congrArg (List.map fun piece => (some piece.1, piece.2)) trimLater
  simp only [List.map_map, List.map_append, List.map_cons, Function.comp_def, unpadded] at labelled
  simp only [pieces, piecesAfter, split, List.map_map, List.map_append, List.map_cons,
    Function.comp_def, List.cons_append, trimFirst, labelled]

theorem trimmedPieces_cons (operator : Option Operator) (text : Text)
    (later : List (Option Operator × Text)) :
    trimmedPieces ((operator, text) :: later) =
      if text.trim.isEmpty then trimmedPieces later
      else (operator, text.trim) :: trimmedPieces later := by
  rw [trimmedPieces, List.map_cons, List.filter_cons]
  cases text.trim.isEmpty <;> rfl

/-- The operator before a line is none of its own. -/
theorem ofPieces_piecesAfter (operator : Operator) (command : Text) :
    Segment.ofPieces (trimmedPieces (piecesAfter operator command)) = segments command := by
  rw [segments_eq_ofPieces_trimmed, piecesAfter, pieces, trimmedPieces_cons, trimmedPieces_cons]
  split <;> rfl

/-- Behind other segments, the segments of pieces keep all they have but their operators. -/
theorem Segment.ofPieces_append (front back : List (Option Operator × Text)) :
    ∃ later, ofPieces (front ++ back) = ofPieces front ++ later ∧
      later.map Segment.tokens = (ofPieces back).map Segment.tokens ∧
        (front ≠ [] → later = back.map fun piece => ofText piece.1 piece.2) := by
  cases front with
  | nil => exact ⟨ofPieces back, rfl, rfl, fun nonempty => absurd rfl nonempty⟩
  | cons first front =>
      refine ⟨back.map fun piece => ofText piece.1 piece.2, ?_, ?_, fun _ => rfl⟩
      · simp [ofPieces]
      · cases back <;> simp [ofPieces, ofText]

/-- The segments of a line that follows an operator. -/
def Segment.follow (operator : Operator) : List Segment → List Segment
  | [] => []
  | first :: later => { first with operator := some operator } :: later

/-- The segments of two lines that are joined are those of the first and those of the second.  Only
the operator before the latter differs: it is the joining one, unless the second line begins with an
operator of its own. -/
theorem segments_joined {first : Text} (closed : Closed first) (operator : Operator)
    (second : Text) :
    ∃ later, segments (joined first operator second) = segments first ++ later ∧
      later.map Segment.tokens = (segments second).map Segment.tokens ∧
        (segments first ≠ [] → Text.isBlank (splitPieces .plain second).1 = false →
          later = Segment.follow operator (segments second)) := by
  obtain ⟨later, append, tokens, behind⟩ := Segment.ofPieces_append
    (trimmedPieces (pieces first)) (trimmedPieces (piecesAfter operator second))
  rw [ofPieces_piecesAfter] at tokens
  rw [← segments_eq_ofPieces_trimmed] at append
  refine ⟨later, ?_, tokens, ?_⟩
  · rw [← append, segments_eq_ofPieces_trimmed, trimmedPieces, pieces_joined closed,
      List.map_append, List.filter_append]
    rfl
  · intro nonempty visible
    have front : trimmedPieces (pieces first) ≠ [] := by
      intro empty
      rw [segments_eq_ofPieces_trimmed, empty] at nonempty
      exact nonempty rfl
    have kept : (splitPieces .plain second).1.trim.isEmpty = false := by
      rw [Bool.eq_false_iff, ne_eq, List.isEmpty_iff, Text.trim_eq_nil_iff, visible]
      simp
    rw [behind front, segments_eq_ofPieces_trimmed, piecesAfter, pieces, trimmedPieces_cons,
      trimmedPieces_cons, kept]
    rfl

/-- The first piece of a line is not blank, if the line is not and begins with no operator. -/
theorem isBlank_first_piece {command : Text} (nonempty : segments command ≠ [])
    (begins : ∀ operator : Operator, ¬operator.text <+: command.trimStart) :
    Text.isBlank (splitPieces .plain command).1 = false := by
  rw [Bool.eq_false_iff]
  intro blank
  rcases uncut_or_operator .plain command with
    uncut | ⟨front, operator, back, rfl, _, _, split⟩
  · rw [splitPieces_of_uncut uncut] at blank
    apply nonempty
    rw [segments_eq_ofPieces, visiblePieces, pieces_of_uncut uncut]
    simp [blank, Segment.ofPieces]
  · rw [split] at blank
    apply begins operator
    rw [Text.trimStart_blank_append blank]
    cases operator <;> exact List.prefix_append _ _

end Shell

/-!
### Deletes
-/

namespace Deletion

theorem inSegmentsFrom_append (start : Nat) (front back : List Segment) :
    inSegmentsFrom start (front ++ back) =
      inSegmentsFrom start front ++ inSegmentsFrom (start + front.length) back := by
  induction front generalizing start with
  | nil => rfl
  | cons segment front ih =>
      rw [List.cons_append, inSegmentsFrom, inSegmentsFrom, ih, List.append_assoc, List.length_cons]
      congr 3
      omega

theorem inSegmentsFrom_add (offset start : Nat) (line : List Segment) :
    inSegmentsFrom (offset + start) line =
      (inSegmentsFrom start line).map fun found => (offset + found.1, found.2) := by
  induction line generalizing start with
  | nil => rfl
  | cons segment line ih =>
      rw [inSegmentsFrom, inSegmentsFrom, Nat.add_assoc, ih, List.map_append]
      cases inSegment? segment <;> rfl

/-- Deletes are found by the words of segments alone. -/
theorem inSegmentsFrom_congr {first second : List Segment}
    (same : first.map Segment.tokens = second.map Segment.tokens) (start : Nat) :
    inSegmentsFrom start first = inSegmentsFrom start second := by
  induction first generalizing second start with
  | nil => simp_all
  | cons segment first ih =>
      cases second with
      | nil => simp at same
      | cons other second =>
          obtain ⟨here, later⟩ := List.cons.inj same
          rw [inSegmentsFrom, inSegmentsFrom, ih later, inSegment?, inSegment?, here]

theorem segments_ne_nil {command : Text} (found : inCommand command ≠ []) :
    segments command ≠ [] := by
  intro empty
  rw [inCommand, empty] at found
  exact found rfl

/-- The deletes of two lines that are joined are those of the first and those of the second, where
the segments of the second are counted on from those of the first. -/
theorem inCommand_joined {first : Text} (closed : Closed first) (operator : Operator)
    (second : Text) :
    inCommand (joined first operator second) =
      inCommand first ++
        (inCommand second).map fun found => ((segments first).length + found.1, found.2) := by
  obtain ⟨later, line, tokens, _⟩ := segments_joined closed operator second
  rw [inCommand, inSegments, line, inSegmentsFrom_append, Nat.zero_add,
    inSegmentsFrom_congr tokens, ← Nat.add_zero (segments first).length, inSegmentsFrom_add]
  rfl

end Deletion

/-!
### Rewriting
-/

theorem rewriteSegments_append (trash : Text) {front : List Segment} (nonempty : front ≠ [])
    (next : Segment) (later : List Segment) :
    rewriteSegments trash (front ++ next :: later) =
      rewriteSegments trash front ++ (next.lead ++ rewriteSegments trash (next :: later)) := by
  cases front with
  | nil => exact absurd rfl nonempty
  | cons first front => simp [rewriteSegments]

/-- Two lines that are joined are rewritten each by itself, with the operator between them. -/
theorem rewriteToTrash_joined {first second : Text} (closed : Closed first)
    (inFirst : Deletion.inCommand first ≠ []) (inSecond : Deletion.inCommand second ≠ [])
    (begins : ∀ other : Operator, ¬other.text <+: second.trimStart) (operator : Operator)
    (trash : Text) :
    rewriteToTrash (joined first operator second) trash =
      rewriteToTrash first trash ++ (operator.between ++ rewriteToTrash second trash) := by
  have nonemptyFirst := Deletion.segments_ne_nil inFirst
  have nonemptySecond := Deletion.segments_ne_nil inSecond
  have inLine : Deletion.inCommand (joined first operator second) ≠ [] := by
    rw [Deletion.inCommand_joined closed]
    simp [inFirst]
  obtain ⟨later, line, _, follow⟩ := segments_joined closed operator second
  rw [rewriteToTrash_of_inCommand_ne_nil inLine, rewriteToTrash_of_inCommand_ne_nil inFirst,
    rewriteToTrash_of_inCommand_ne_nil inSecond, line,
    follow nonemptyFirst (isBlank_first_piece nonemptySecond begins)]
  cases eq : segments second with
  | nil => exact absurd eq nonemptySecond
  | cons next rest => exact rewriteSegments_append trash nonemptyFirst _ rest

/-- Where the first of two lines ends outside quotes and escapes, the deletes of both joined are
those of each, and the lines are rewritten each by itself if both have one.  The second must not
begin with an operator, after the blanks that trimming takes off: that one would then stand in the
place of the joining one. -/
theorem joined_lines_compose {first : Text} (closed : Closed first) (operator : Operator)
    (second : Text) :
    Deletion.inCommand (joined first operator second) =
        Deletion.inCommand first ++
          (Deletion.inCommand second).map
            (fun found => ((segments first).length + found.1, found.2)) ∧
      (Deletion.inCommand first ≠ [] → Deletion.inCommand second ≠ [] →
        (∀ other : Operator, ¬other.text <+: second.trimStart) →
          ∀ trash, rewriteToTrash (joined first operator second) trash =
            rewriteToTrash first trash ++
              ((if operator = .sequence then ("; " : Text) else " " ++ operator.text ++ " ") ++
                rewriteToTrash second trash)) := by
  refine ⟨Deletion.inCommand_joined closed operator second, ?_⟩
  intro inFirst inSecond begins trash
  rw [rewriteToTrash_joined closed inFirst inSecond begins]
  cases operator <;> rfl

theorem joined_lines_compose_mixed :
    let first : Text := "x|| rm -f 'a;b' &"
    let second : Text := " ls; rm \"c && d"
    Closed first ∧ Deletion.inCommand first ≠ [] ∧ Deletion.inCommand second ≠ [] ∧
      (∀ other : Operator, ¬other.text <+: second.trimStart) ∧
      (Deletion.inCommand (joined first .and second)).map Prod.fst = [1, 3] ∧
      rewriteToTrash (joined first .and second) "gio trash" =
        "x || gio trash 'a;b' & && ls; gio trash \"c && d" := by
  intro first second
  have closed : Closed first := by
    unfold Closed
    decide
  have inFirst : Deletion.inCommand first ≠ [] := by decide
  have inSecond : Deletion.inCommand second ≠ [] := by decide
  have begins : ∀ other : Operator, ¬other.text <+: second.trimStart := by
    intro other
    cases other <;> decide
  obtain ⟨found, rewritten⟩ := joined_lines_compose closed .and second
  refine ⟨closed, inFirst, inSecond, begins, ?_, ?_⟩
  · rw [found]
    decide
  · rw [rewritten inFirst inSecond begins]
    decide

end SafeDelete
