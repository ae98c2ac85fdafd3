/-
Module: SafeDelete.Proofs.Shell.Segments
Purpose: What is known of every segment of a command line, and of two segments that follow one
  another.
Main exports: Shell.visiblePieces, Shell.Segment.ofPieces, Shell.trimmedPieces,
  Shell.segments_eq_ofPieces_trimmed, Shell.segments_of_uncut, Shell.Segment.Wellformed,
  Shell.wellformed_of_mem_segments, Shell.segments_pairwise, Shell.run_trim_of_closed
-/
import SafeDelete.Proofs.Shell.Pieces
import Mathlib.Data.List.Pairwise

namespace SafeDelete.Shell

/-- The pieces of a command line that are not blank. -/
def visiblePieces (command : Text) : List (Option Operator × Text) :=
  (pieces command).filter fun piece => !Text.isBlank piece.2

/-- The segments of pieces; the first has no operator. -/
def Segment.ofPieces : List (Option Operator × Text) → List Segment
  | [] => []
  | first :: later => ofText none first.2 :: later.map fun piece => ofText piece.1 piece.2

theorem segments_eq_ofPieces (command : Text) :
    segments command = Segment.ofPieces (visiblePieces command) := by
  rw [segments, visiblePieces]
  split <;> rename_i eq <;> rw [eq] <;> rfl

theorem Segment.ofText_trim (operator : Option Operator) (text : Text) :
    ofText operator text.trim = ofText operator text := by
  simp [ofText]

theorem Segment.ofPieces_trim (pieces : List (Option Operator × Text)) :
    ofPieces (pieces.map fun piece => (piece.1, piece.2.trim)) = ofPieces pieces := by
  cases pieces with
  | nil => rfl
  | cons first later => simp [ofPieces, ofText_trim]

/-- What trimming leaves of pieces. -/
def trimmedPieces (pieces : List (Option Operator × Text)) : List (Option Operator × Text) :=
  (pieces.map fun piece => (piece.1, piece.2.trim)).filter fun piece => !piece.2.isEmpty

/-- The segments of a command line depend on no more than its pieces after trimming. -/
theorem segments_eq_ofPieces_trimmed (command : Text) :
    segments command = Segment.ofPieces (trimmedPieces (pieces command)) := by
  have same : ∀ text : Text, text.trim.isEmpty = Text.isBlank text := fun text => by
    rw [Bool.eq_iff_iff, List.isEmpty_iff, Text.trim_eq_nil_iff]
  rw [segments_eq_ofPieces, visiblePieces, trimmedPieces, List.filter_map, Segment.ofPieces_trim]
  simp only [Function.comp_def, same]

/-!
### Pieces
-/

theorem pieces_of_uncut {text : Text} (uncut : Uncut .plain text) :
    pieces text = [(none, text)] := by
  simp [pieces, splitPieces_of_uncut uncut]

/-- A line without an operator is one segment. -/
theorem segments_of_uncut {command : Text} (visible : Text.isBlank command = false)
    (uncut : Uncut .plain command) : segments command = [Segment.ofText none command] := by
  rw [segments_eq_ofPieces, visiblePieces, pieces_of_uncut uncut]
  simp [visible, Segment.ofPieces]

theorem pieces_of_splitPieces {text front : Text} {operator : Operator} {later : Pieces}
    (split : splitPieces .plain text = (front, (operator, later.1) :: later.2)) :
    pieces text =
      (none, front) :: (some operator, later.1) :: later.2.map fun (operator, text) =>
        (some operator, text) := by
  simp [pieces, split]

/-- The pieces of a text are uncut. -/
theorem uncut_of_mem_pieces (text : Text) : ∀ piece ∈ pieces text, Uncut .plain piece.2 := by
  induction text using piece_induction with
  | uncut text whole =>
      intro piece mem
      rw [pieces_of_uncut whole, List.mem_singleton] at mem
      exact mem ▸ whole
  | cut front operator back whole closed split ih =>
      intro piece mem
      rw [pieces_of_splitPieces split, List.mem_cons] at mem
      rcases mem with rfl | mem
      · exact whole
      · rw [List.mem_cons] at mem
        rcases mem with rfl | mem
        · exact ih (none, (splitPieces .plain back).1) List.mem_cons_self
        · exact ih piece (List.mem_cons_of_mem _ mem)

/-- A piece that others follow is closed, and those others have an operator before them. -/
theorem pieces_pairwise (text : Text) :
    (pieces text).Pairwise fun piece later => Closed piece.2 ∧ later.1 ≠ none := by
  induction text using piece_induction with
  | uncut text whole =>
      rw [pieces_of_uncut whole]
      exact List.pairwise_singleton _ _
  | cut front operator back whole closed split ih =>
      rw [pieces_of_splitPieces split]
      rw [pieces, List.pairwise_cons] at ih
      refine List.Pairwise.cons ?_ (List.Pairwise.cons ?_ ih.2)
      · intro later mem
        refine ⟨closed, ?_⟩
        rcases List.mem_cons.mp mem with rfl | mem
        · simp
        · obtain ⟨piece, _, rfl⟩ := List.mem_map.mp mem
          simp
      · exact ih.1

/-!
### Trimming a piece
-/

theorem uncut_trim {text : Text} (uncut : Uncut .plain text) : Uncut .plain text.trim := by
  rw [← Text.trim_decomposition text] at uncut
  have later := uncut.of_append_right
  rw [closed_of_isBlank (Text.isBlank_leadingBlanks text)] at later
  exact later.of_append_left

/-- Blanks close nothing but a pending escape. -/
theorem run_of_isBlank {mode : ScanMode} {blanks : Text} (blank : Text.isBlank blanks = true)
    (closed : mode.run blanks = .plain) : mode = .plain ∨ mode = .escaped := by
  induction blanks generalizing mode with
  | nil => exact Or.inl closed
  | cons c rest ih =>
      rw [← List.singleton_append, Text.isBlank_append] at blank
      obtain ⟨notBackslash, notSingle, notDouble⟩ :=
        isBare_of_isBlank (Text.isBlank_iff.mp blank.1 c List.mem_cons_self)
      have later := ih blank.2 closed
      cases mode <;> simp_all [ScanMode.step, Quote.mark]

/-- Trimming a closed text leaves it closed, or takes off the blank that a backslash escapes. -/
theorem run_trim_of_closed {text : Text} (closed : Closed text) :
    ScanMode.plain.run text.trim = .plain ∨ ScanMode.plain.run text.trim = .escaped := by
  refine run_of_isBlank (Text.isBlank_trailingBlanks text) ?_
  rw [← ScanMode.run_append,
    ← (closed_of_isBlank (Text.isBlank_leadingBlanks text)).run_append, Text.trim_decomposition]
  exact closed

/-!
### Segments
-/

/-- What holds of each segment by itself. -/
structure Segment.Wellformed (segment : Segment) : Prop where
  nonempty : segment.raw ≠ []
  solid : Text.Solid segment.raw
  uncut : Uncut .plain segment.raw
  tokens : segment.tokens = tokenize segment.raw

theorem Segment.wellformed_ofText {operator : Option Operator} {text : Text}
    (visible : Text.isBlank text = false) (uncut : Uncut .plain text) :
    (ofText operator text).Wellformed where
  nonempty empty := by
    rw [Text.trim_eq_nil_iff.mp empty] at visible
    contradiction
  solid := Text.solid_trim text
  uncut := uncut_trim uncut
  tokens := rfl

theorem mem_visiblePieces {command : Text} {piece : Option Operator × Text} :
    piece ∈ visiblePieces command ↔ piece ∈ pieces command ∧ Text.isBlank piece.2 = false := by
  simp [visiblePieces, List.mem_filter]

theorem Segment.mem_ofPieces {pieces : List (Option Operator × Text)} {segment : Segment}
    (mem : segment ∈ ofPieces pieces) :
    ∃ operator, ∃ piece ∈ pieces, segment = ofText operator piece.2 := by
  cases pieces with
  | nil => simp [ofPieces] at mem
  | cons first later =>
      rw [ofPieces, List.mem_cons, List.mem_map] at mem
      rcases mem with rfl | ⟨piece, mem, rfl⟩
      · exact ⟨none, first, List.mem_cons_self, rfl⟩
      · exact ⟨piece.1, piece, List.mem_cons_of_mem _ mem, rfl⟩

theorem wellformed_of_mem_segments {command : Text} {segment : Segment}
    (mem : segment ∈ segments command) : segment.Wellformed := by
  rw [segments_eq_ofPieces] at mem
  obtain ⟨operator, piece, memVisible, rfl⟩ := Segment.mem_ofPieces mem
  obtain ⟨memPieces, visible⟩ := mem_visiblePieces.mp memVisible
  exact Segment.wellformed_ofText visible (uncut_of_mem_pieces command piece memPieces)

/-- A segment that others follow ends outside quotes, and those others have an operator. -/
theorem segments_pairwise (command : Text) :
    (segments command).Pairwise fun segment later =>
      (ScanMode.plain.run segment.raw = .plain ∨ ScanMode.plain.run segment.raw = .escaped) ∧
        later.operator ≠ none := by
  have visible : (visiblePieces command).Pairwise fun piece later =>
      Closed piece.2 ∧ later.1 ≠ none :=
    (pieces_pairwise command).sublist List.filter_sublist
  rw [segments_eq_ofPieces]
  cases eq : visiblePieces command with
  | nil => exact List.Pairwise.nil
  | cons first later =>
      rw [eq, List.pairwise_cons] at visible
      refine List.Pairwise.cons ?_ (List.pairwise_map.mpr (visible.2.imp ?_))
      · intro segment mem
        obtain ⟨piece, memLater, rfl⟩ := List.mem_map.mp mem
        obtain ⟨closed, operator⟩ := visible.1 piece memLater
        exact ⟨run_trim_of_closed closed, operator⟩
      · rintro piece next ⟨closed, operator⟩
        exact ⟨run_trim_of_closed closed, operator⟩

theorem operator_head_segments {command : Text} {first : Segment} {later : List Segment}
    (eq : segments command = first :: later) : first.operator = none := by
  rw [segments_eq_ofPieces] at eq
  cases pieces : visiblePieces command with
  | nil => simp [pieces, Segment.ofPieces] at eq
  | cons piece rest =>
      rw [pieces, Segment.ofPieces] at eq
      exact (List.cons.inj eq).1 ▸ rfl

end SafeDelete.Shell
