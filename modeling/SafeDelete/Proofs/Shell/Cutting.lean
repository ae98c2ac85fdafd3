/-
Module: SafeDelete.Proofs.Shell.Cutting
Purpose: The grammar of a command line: texts with operators between them, in exactly one way, and
  the segments that are read off them.
Main exports: Shell.Cut, Shell.Cut.StandsIn, Shell.Pieces.text, Shell.Pieces.cuts, Shell.IsCutting,
  Shell.isCutting_iff, Shell.Pieces.IsReadAs, Shell.segments_of_unique_cutting
-/
import SafeDelete.Proofs.Shell.Segments

namespace SafeDelete.Shell

/-!
### Places of operators
-/

/-- A place in a text where an operator is spelled, given by all that stands before it. -/
structure Cut where
  before : Text
  operator : Operator

namespace Operator

/-- An operator of two characters. -/
def IsDouble (operator : Operator) : Prop :=
  operator.text.length = 2

theorem length_text_pos (operator : Operator) : 0 < operator.text.length := by
  cases operator <;> decide

theorem length_text_le (operator : Operator) : operator.text.length ≤ 2 := by
  cases operator <;> decide

theorem closed_text (operator : Operator) : Closed operator.text := by
  cases operator <;> rfl

end Operator

namespace Cut

/-- The operator is spelled at this place of the text, outside quotes and escapes. -/
def StandsIn (cut : Cut) (text : Text) : Prop :=
  Closed cut.before ∧ cut.before ++ cut.operator.text <+: text

/-- The other operator starts at a character of this one. -/
def Covers (cut other : Cut) : Prop :=
  cut.before.length ≤ other.before.length ∧
    other.before.length < cut.before.length + cut.operator.text.length

/-- The same place in a longer text, which has `front` before it. -/
def behind (front : Text) (cut : Cut) : Cut :=
  ⟨front ++ cut.before, cut.operator⟩

theorem standsIn_behind {front : Text} (closed : Closed front) {cut : Cut} {text : Text} :
    (cut.behind front).StandsIn (front ++ text) ↔ cut.StandsIn text := by
  rw [StandsIn, StandsIn, behind, closed.append_iff, List.append_assoc,
    List.prefix_append_right_inj]

theorem covers_behind {front : Text} {cut other : Cut} :
    (cut.behind front).Covers (other.behind front) ↔ cut.Covers other := by
  simp only [Covers, behind, List.length_append]
  omega

/-- A place that is not further to the left than the end of `front` is one in what follows. -/
theorem StandsIn.exists_behind {front text : Text} {cut : Cut}
    (stands : cut.StandsIn (front ++ text)) (further : front.length ≤ cut.before.length) :
    ∃ other : Cut, cut = other.behind front := by
  have isPrefix : cut.before <+: front ++ text := (List.prefix_append _ _).trans stands.2
  obtain ⟨rest, eq⟩ := List.prefix_of_prefix_length_le (List.prefix_append _ _) isPrefix further
  exact ⟨⟨rest, cut.operator⟩, by rw [behind, eq]⟩

end Cut

theorem operatorAt?_of_isDouble {operator : Operator} (double : operator.IsDouble) (rest : Text) :
    operatorAt? (operator.text ++ rest) = some (operator, rest) := by
  cases operator with
  | and => rfl
  | or => rfl
  | sequence => simp [Operator.IsDouble, Operator.text] at double
  | pipe => simp [Operator.IsDouble, Operator.text] at double

/-- No operator is found exactly where none is spelled. -/
theorem operatorAt?_eq_none_iff {text : Text} :
    operatorAt? text = none ↔ ∀ operator : Operator, ¬operator.text <+: text := by
  constructor
  · rintro none operator ⟨rest, rfl⟩
    cases operator with
    | and => simp [operatorAt?, Operator.text] at none
    | or => simp [operatorAt?, Operator.text] at none
    | sequence => simp [operatorAt?, Operator.text] at none
    | pipe =>
        -- The bar may be the first of two.
        unfold operatorAt? at none
        split at none <;> simp_all [Operator.text]
  · intro nowhere
    cases found : operatorAt? text with
    | none => rfl
    | some pair =>
        rw [eq_append_of_operatorAt? found] at nowhere
        exact absurd (List.prefix_append _ _) (nowhere pair.1)

/-- Texts are uncut where no operator is spelled outside quotes and escapes. -/
theorem uncut_iff {mode : ScanMode} {text : Text} :
    Uncut mode text ↔ ∀ front (operator : Operator), mode.run front = .plain →
      ¬front ++ operator.text <+: text := by
  induction text generalizing mode with
  | nil =>
      refine iff_of_true trivial fun front operator _ spelled => ?_
      cases operator <;> simp [Operator.text] at spelled
  | cons c rest ih =>
      rw [Uncut, ih]
      constructor
      · rintro ⟨here, later⟩ front operator closed spelled
        cases front with
        | nil => exact operatorAt?_eq_none_iff.mp (here closed) operator spelled
        | cons d front =>
            obtain ⟨rfl, spelledLater⟩ := List.cons_prefix_cons.mp spelled
            exact later front operator closed spelledLater
      · intro nowhere
        constructor
        · intro plain
          exact operatorAt?_eq_none_iff.mpr fun operator => nowhere [] operator plain
        · intro front operator closed spelled
          exact nowhere (c :: front) operator closed (List.cons_prefix_cons.mpr ⟨rfl, spelled⟩)

theorem uncut_iff_forall_cut {text : Text} :
    Uncut .plain text ↔ ∀ cut : Cut, ¬cut.StandsIn text := by
  rw [uncut_iff]
  constructor
  · rintro nowhere cut ⟨closed, spelled⟩
    exact nowhere cut.before cut.operator closed spelled
  · intro nowhere front operator closed spelled
    exact nowhere ⟨front, operator⟩ ⟨closed, spelled⟩

/-!
### Cuttings
-/

namespace Pieces

/-- The text that is put together from pieces. -/
def text (pieces : Pieces) : Text :=
  pieces.1 ++ pieces.2.flatMap fun (operator, text) => operator.text ++ text

/-- The cuts between pieces, where those after the first are behind the text `before`. -/
def cutsBehind (before : Text) : List (Operator × Text) → List Cut
  | [] => []
  | (operator, text) :: later =>
    ⟨before, operator⟩ :: cutsBehind (before ++ (operator.text ++ text)) later

/-- The places of the operators in the text that is put together from pieces. -/
def cuts (pieces : Pieces) : List Cut :=
  cutsBehind pieces.1 pieces.2

/-- Each piece with the operator immediately before it. -/
def labelled (pieces : Pieces) : List (Option Operator × Text) :=
  (none, pieces.1) :: pieces.2.map fun (operator, text) => (some operator, text)

theorem text_cons (first : Text) (operator : Operator) (next : Text)
    (later : List (Operator × Text)) :
    text (first, (operator, next) :: later) = first ++ (operator.text ++ text (next, later)) := by
  simp [text]

theorem cutsBehind_append (front before : Text) (later : List (Operator × Text)) :
    cutsBehind (front ++ before) later = (cutsBehind before later).map (Cut.behind front) := by
  induction later generalizing before with
  | nil => rfl
  | cons piece later ih =>
      rw [cutsBehind, cutsBehind, List.append_assoc, ih]
      rfl

theorem cuts_cons (first : Text) (operator : Operator) (next : Text)
    (later : List (Operator × Text)) :
    cuts (first, (operator, next) :: later) =
      ⟨first, operator⟩ :: (cuts (next, later)).map (Cut.behind (first ++ operator.text)) := by
  rw [cuts, cutsBehind, ← List.append_assoc, cutsBehind_append]
  rfl

theorem first_le_of_mem_cuts {first : Text} {later : List (Operator × Text)} {cut : Cut}
    (mem : cut ∈ cuts (first, later)) : first.length ≤ cut.before.length := by
  cases later with
  | nil => simp [cuts, cutsBehind] at mem
  | cons piece later =>
      rw [cuts_cons, List.mem_cons, List.mem_map] at mem
      rcases mem with rfl | ⟨inRest, _, rfl⟩
      · exact le_rfl
      · simp only [Cut.behind, List.length_append]
        omega

end Pieces

/-- A command line is cut into pieces at its operators. -/
structure IsCutting (command : Text) (pieces : Pieces) : Prop where
  /-- Nothing is lost. -/
  whole : pieces.text = command
  /-- Every cut is outside quotes and escapes. -/
  outside : ∀ cut ∈ pieces.cuts, Closed cut.before
  /-- Operators of two characters are taken greedily from the left: each that stands outside quotes
  and escapes is cut at, or starts at the second character of one that is. -/
  greedy : ∀ cut : Cut, cut.StandsIn command → cut.operator.IsDouble →
    ∃ taken ∈ pieces.cuts, taken.operator.IsDouble ∧ taken.Covers cut
  /-- No piece has an operator outside quotes and escapes. -/
  uncut : ∀ piece ∈ pieces.labelled, ∀ cut : Cut, ¬cut.StandsIn piece.2

/-- The pieces behind the first cut are a cutting of the text behind it. -/
theorem IsCutting.tail {first next : Text} {operator : Operator} {later : List (Operator × Text)}
    {command : Text} (cutting : IsCutting command (first, (operator, next) :: later)) :
    IsCutting (Pieces.text (next, later)) (next, later) := by
  obtain ⟨whole, outside, greedy, uncut⟩ := cutting
  rw [Pieces.cuts_cons] at outside greedy
  rw [Pieces.text_cons, ← List.append_assoc] at whole
  have closedFirst : Closed first := outside _ List.mem_cons_self
  have closed := closedFirst.append_iff.mpr operator.closed_text
  constructor
  · rfl
  · intro cut mem
    have shifted := outside _ (List.mem_cons_of_mem _ (List.mem_map_of_mem mem))
    exact closed.append_iff.mp shifted
  · intro cut stands double
    rw [← Cut.standsIn_behind closed, whole] at stands
    obtain ⟨taken, mem, takenDouble, covers⟩ := greedy _ stands double
    rcases List.mem_cons.mp mem with rfl | mem
    · -- The first operator ends where the rest begins.
      have ends := covers.2
      simp only [Cut.behind, List.length_append] at ends
      omega
    · obtain ⟨inRest, memRest, rfl⟩ := List.mem_map.mp mem
      exact ⟨inRest, memRest, takenDouble, Cut.covers_behind.mp covers⟩
  · intro piece mem
    rcases List.mem_cons.mp mem with rfl | mem
    · exact uncut (some operator, next) (by simp [Pieces.labelled])
    · exact uncut piece (by simp_all [Pieces.labelled])

/-- A first piece and a cutting of what follows its operator are a cutting, if no operator of two
characters is passed over. -/
theorem IsCutting.cons {first back next : Text} {operator : Operator}
    {later : List (Operator × Text)} (closed : Closed first) (uncut : Uncut .plain first)
    (cutting : IsCutting back (next, later))
    (nonePassed : ∀ cut : Cut, cut.StandsIn (first ++ (operator.text ++ back)) →
      cut.operator.IsDouble → first.length < cut.before.length ∨ cut = ⟨first, operator⟩) :
    IsCutting (first ++ (operator.text ++ back)) (first, (operator, next) :: later) := by
  have closedFront := closed.append_iff.mpr operator.closed_text
  constructor
  · rw [Pieces.text_cons, cutting.whole]
  · intro cut mem
    rw [Pieces.cuts_cons] at mem
    rcases List.mem_cons.mp mem with rfl | mem
    · exact closed
    · obtain ⟨inBack, memBack, rfl⟩ := List.mem_map.mp mem
      exact closedFront.append_iff.mpr (cutting.outside inBack memBack)
  · intro cut stands double
    rw [Pieces.cuts_cons]
    rcases nonePassed cut stands double with short | rfl
    · by_cases inside : cut.before.length < first.length + operator.text.length
      · -- Only an operator of two characters has a place behind its first one.
        have takenDouble : operator.IsDouble := by
          have le := operator.length_text_le
          rw [Operator.IsDouble]
          omega
        exact ⟨⟨first, operator⟩, List.mem_cons_self, takenDouble, short.le, inside⟩
      · rw [← List.append_assoc] at stands
        obtain ⟨inBack, rfl⟩ := stands.exists_behind (by simpa using inside)
        rw [Cut.standsIn_behind closedFront] at stands
        obtain ⟨taken, mem, takenDouble, covers⟩ := cutting.greedy inBack stands double
        exact ⟨taken.behind _, List.mem_cons_of_mem _ (List.mem_map_of_mem mem), takenDouble,
          Cut.covers_behind.mpr covers⟩
    · refine ⟨⟨first, operator⟩, List.mem_cons_self, double, le_rfl, ?_⟩
      exact Nat.lt_add_of_pos_right operator.length_text_pos
  · intro piece mem
    rw [Pieces.labelled, List.map_cons] at mem
    rcases List.mem_cons.mp mem with rfl | mem
    · exact uncut_iff_forall_cut.mp uncut
    · rcases List.mem_cons.mp mem with rfl | mem
      · exact cutting.uncut (none, next) List.mem_cons_self
      · exact cutting.uncut piece (List.mem_cons_of_mem _ mem)

/-!
### Cutting from the left
-/

/-- A front that no operator starts in is left whole when the text is cut. -/
theorem splitPieces_append_of_leftmost {mode : ScanMode} {front back : Text}
    (leftmost : ∀ before (operator : Operator), mode.run before = .plain →
      before ++ operator.text <+: front ++ back → front.length ≤ before.length) :
    splitPieces mode (front ++ back) =
      (front ++ (splitPieces (mode.run front) back).1, (splitPieces (mode.run front) back).2) := by
  induction front generalizing mode with
  | nil => rfl
  | cons c rest ih =>
      have none : mode = .plain → operatorAt? (c :: (rest ++ back)) = none := by
        intro plain
        rw [operatorAt?_eq_none_iff]
        intro operator spelled
        have short := leftmost [] operator plain spelled
        simp at short
      rw [List.cons_append, splitPieces_cons none, ih]
      · rfl
      · intro before operator closed spelled
        have here := leftmost (c :: before) operator closed
          (List.cons_prefix_cons.mpr ⟨rfl, spelled⟩)
        simpa using here

/-- No operator of two characters is passed over: the first piece ends before it, or the text is cut
there. -/
theorem first_splitPieces {mode : ScanMode} {before text : Text} {operator : Operator}
    (closed : mode.run before = .plain) (double : operator.IsDouble)
    (spelled : before ++ operator.text <+: text) :
    (splitPieces mode text).1.length < before.length ∨
      ∃ next later, splitPieces mode text = (before, (operator, next) :: later) := by
  induction before generalizing mode text with
  | nil =>
      obtain rfl : mode = .plain := closed
      obtain ⟨rest, rfl⟩ := spelled
      have found := splitPieces_of_operatorAt? (operatorAt?_of_isDouble double rest)
      exact Or.inr ⟨_, _, found⟩
  | cons c before ih =>
      cases text with
      | nil => simp at spelled
      | cons d rest =>
          obtain ⟨rfl, spelledLater⟩ := List.cons_prefix_cons.mp spelled
          by_cases found : mode = .plain ∧ operatorAt? (c :: rest) ≠ none
          · obtain ⟨rfl, starts⟩ := found
            obtain ⟨⟨other, back⟩, eq⟩ := Option.ne_none_iff_exists'.mp starts
            left
            rw [splitPieces_of_operatorAt? eq]
            simp [Pieces.startWith]
          · have none : mode = .plain → operatorAt? (c :: rest) = none := by
              simpa using found
            rw [splitPieces_cons none]
            rcases ih closed spelledLater with short | ⟨next, later, split⟩
            · left
              simpa using short
            · right
              rw [split]
              exact ⟨next, later, rfl⟩

theorem isCutting_splitPieces (command : Text) :
    IsCutting command (splitPieces .plain command) := by
  induction command using piece_induction with
  | uncut text whole =>
      have nowhere := uncut_iff_forall_cut.mp whole
      rw [splitPieces_of_uncut whole]
      constructor
      · simp [Pieces.text]
      · simp [Pieces.cuts, Pieces.cutsBehind]
      · intro cut stands
        exact absurd stands (nowhere cut)
      · simpa [Pieces.labelled] using nowhere
  | cut front operator back whole closed split ih =>
      rw [split]
      apply ih.cons closed whole
      rintro ⟨before, other⟩ ⟨closedBefore, spelled⟩ double
      rcases first_splitPieces closedBefore double spelled with short | ⟨next, later, splitThere⟩
      · rw [split] at short
        exact Or.inl short
      · rw [split] at splitThere
        obtain ⟨rfl, sameLater⟩ := Prod.mk.inj splitThere
        obtain rfl : operator = other := congrArg Prod.fst (List.cons.inj sameLater).1
        exact Or.inr rfl

section

variable {command first next : Text} {operator : Operator} {later : List (Operator × Text)}

/-- No operator starts in the first piece, not even one that ends behind it. -/
theorem IsCutting.first_le (cutting : IsCutting command (first, later)) (cut : Cut)
    (stands : cut.StandsIn command) : first.length ≤ cut.before.length := by
  by_contra further
  by_cases double : cut.operator.IsDouble
  · obtain ⟨taken, mem, _, covers⟩ := cutting.greedy cut stands double
    exact further ((Pieces.first_le_of_mem_cuts mem).trans covers.1)
  · have single : cut.operator.text.length = 1 := by
      have pos := cut.operator.length_text_pos
      have le := cut.operator.length_text_le
      rw [Operator.IsDouble] at double
      omega
    have inFirst : cut.before ++ cut.operator.text <+: first := by
      apply List.prefix_of_prefix_length_le stands.2
      · rw [← cutting.whole]
        exact List.prefix_append _ _
      · rw [List.length_append]
        omega
    exact cutting.uncut (none, first) List.mem_cons_self cut ⟨stands.1, inFirst⟩

/-- A bar that is cut at is not the first of two. -/
theorem IsCutting.operatorAt?_eq
    (cutting : IsCutting command (first, (operator, next) :: later)) :
    operatorAt? (operator.text ++ Pieces.text (next, later)) =
      some (operator, Pieces.text (next, later)) := by
  cases operator with
  | and => rfl
  | or => rfl
  | sequence => rfl
  | pipe =>
      cases eq : Pieces.text (next, later) with
      | nil => rfl
      | cons c rest =>
          by_cases bar : c = '|'
          · subst bar
            have stands : Cut.StandsIn ⟨first, .or⟩ command := by
              refine ⟨cutting.outside ⟨first, .pipe⟩ List.mem_cons_self, rest, ?_⟩
              rw [← cutting.whole, Pieces.text_cons, eq, List.append_assoc]
              rfl
            obtain ⟨taken, mem, double, covers⟩ := cutting.greedy _ stands rfl
            rw [Pieces.cuts_cons] at mem
            rcases List.mem_cons.mp mem with rfl | mem
            · simp [Operator.IsDouble, Operator.text] at double
            · obtain ⟨inRest, _, rfl⟩ := List.mem_map.mp mem
              -- A later operator starts further to the right.
              have starts := covers.1
              have spelled := Operator.pipe.length_text_pos
              simp only [Cut.behind, List.length_append] at starts
              omega
          · simp [operatorAt?, Operator.text, bar]

end

/-- There is no other cutting than the one that is found from the left. -/
theorem IsCutting.eq_splitPieces {command : Text} {pieces : Pieces}
    (cutting : IsCutting command pieces) : pieces = splitPieces .plain command := by
  obtain ⟨first, later⟩ := pieces
  induction later generalizing first command with
  | nil =>
      have uncut := uncut_iff_forall_cut.mpr (cutting.uncut (none, first) List.mem_cons_self)
      have whole : first = command := by simpa [Pieces.text] using cutting.whole
      rw [← whole, splitPieces_of_uncut uncut]
  | cons piece later ih =>
      obtain ⟨operator, next⟩ := piece
      have closed : Closed first := cutting.outside ⟨first, operator⟩ List.mem_cons_self
      have whole := cutting.whole
      rw [Pieces.text_cons] at whole
      have leftmost : ∀ before (other : Operator), ScanMode.plain.run before = .plain →
          before ++ other.text <+: first ++ (operator.text ++ Pieces.text (next, later)) →
            first.length ≤ before.length := by
        intro before other closedBefore spelled
        rw [whole] at spelled
        exact cutting.first_le ⟨before, other⟩ ⟨closedBefore, spelled⟩
      rw [← whole, splitPieces_append_of_leftmost leftmost, closed,
        splitPieces_of_operatorAt? cutting.operatorAt?_eq, ← ih _ cutting.tail]
      simp [Pieces.startWith]

theorem pieces_eq_labelled (command : Text) :
    pieces command = (splitPieces .plain command).labelled := rfl

theorem isCutting_iff {command : Text} {pieces : Pieces} :
    IsCutting command pieces ↔ pieces = splitPieces .plain command := by
  constructor
  · exact IsCutting.eq_splitPieces
  · rintro rfl
    exact isCutting_splitPieces command

/-!
### Segments
-/

/-- The pieces of which trimming leaves something, each with the operator immediately before it. -/
def Pieces.visible (pieces : Pieces) : List (Option Operator × Text) :=
  pieces.labelled.filter fun piece => piece.2.trim ≠ []

/-- A command line of these pieces has these segments: one for each piece that is not blank, in
order, trimmed and read word by word, with the operator before it; the first one has none. -/
structure Pieces.IsReadAs (pieces : Pieces) (line : List Segment) : Prop where
  raw : line.map Segment.raw = pieces.visible.map fun piece => piece.2.trim
  tokens : ∀ segment ∈ line, segment.tokens = tokenize segment.raw
  first : ∀ segment ∈ line.head?, segment.operator = none
  later : line.tail.map Segment.operator = pieces.visible.tail.map Prod.fst

theorem visiblePieces_eq_visible (command : Text) :
    visiblePieces command = (splitPieces .plain command).visible := by
  rw [visiblePieces, pieces_eq_labelled, Pieces.visible]
  apply List.filter_congr
  intro piece _
  rw [Bool.eq_iff_iff, decide_eq_true_iff, Ne, Text.trim_eq_nil_iff, Bool.not_eq_true',
    Bool.not_eq_true]

/-- Segments are determined by their texts and operators. -/
theorem Segment.eq_map_ofText {line : List Segment} {pieces : List (Option Operator × Text)}
    (raw : line.map Segment.raw = pieces.map fun piece => piece.2.trim)
    (tokens : ∀ segment ∈ line, segment.tokens = tokenize segment.raw)
    (operator : line.map Segment.operator = pieces.map Prod.fst) :
    line = pieces.map fun piece => ofText piece.1 piece.2 := by
  induction line generalizing pieces with
  | nil => simp_all
  | cons segment line ih =>
      cases pieces with
      | nil => simp at raw
      | cons piece pieces =>
          obtain ⟨rawHere, rawLater⟩ := List.cons.inj raw
          obtain ⟨operatorHere, operatorLater⟩ := List.cons.inj operator
          have here : segment = ofText piece.1 piece.2 := by
            obtain ⟨text, words, before⟩ := segment
            obtain rfl : text = piece.2.trim := rawHere
            obtain rfl : words = tokenize piece.2.trim := tokens _ List.mem_cons_self
            obtain rfl : before = piece.1 := operatorHere
            rfl
          have later := ih rawLater (fun other mem => tokens other (List.mem_cons_of_mem _ mem))
            operatorLater
          rw [List.map_cons, ← here, ← later]

theorem Pieces.isReadAs_iff {pieces : Pieces} {line : List Segment} :
    pieces.IsReadAs line ↔ line = Segment.ofPieces pieces.visible := by
  constructor
  · rintro ⟨raw, tokens, first, later⟩
    cases eq : pieces.visible with
    | nil => simpa [eq, Segment.ofPieces] using raw
    | cons piece rest =>
        rw [eq] at raw later
        apply @Segment.eq_map_ofText line ((none, piece.2) :: rest) raw tokens
        cases line with
        | nil => simp at raw
        | cons segment line =>
            rw [List.map_cons, List.map_cons, first segment rfl]
            exact congrArg (none :: ·) later
  · rintro rfl
    constructor
    · cases eq : pieces.visible <;> simp [Segment.ofPieces, Segment.ofText]
    · intro segment mem
      obtain ⟨operator, piece, _, rfl⟩ := Segment.mem_ofPieces mem
      rfl
    · cases eq : pieces.visible <;> simp [Segment.ofPieces, Segment.ofText]
    · cases eq : pieces.visible <;> simp [Segment.ofPieces, Segment.ofText]

/-- Every command line has exactly one cutting, and its segments are exactly what that cutting is
read as. -/
theorem segments_of_unique_cutting (command : Text) :
    ∃ cutting : Pieces, (∀ pieces, IsCutting command pieces ↔ pieces = cutting) ∧
      ∀ line, cutting.IsReadAs line ↔ line = segments command := by
  refine ⟨splitPieces .plain command, fun pieces => isCutting_iff, fun line => ?_⟩
  rw [Pieces.isReadAs_iff, segments_eq_ofPieces, visiblePieces_eq_visible]

/-- Of three bars the first two are an operator, and so are the first two of three ampersands; the
third bar is another operator, the third ampersand is none. -/
example : segments "a|||b&&&c" =
    [.ofText none "a", .ofText (some .pipe) "b", .ofText (some .and) "&c"] := by
  decide

end SafeDelete.Shell
