/-
Module: SafeDelete.Proofs.Text.Glob
Purpose: Which texts a pattern matches, said without rows, and that rows find just these.
Main exports: Glob.StandsFor, Glob.Matches, Glob.matches_cons_iff, Glob.row_eq,
  Glob.accepts_ofText_iff
-/
import Mathlib.Data.List.Forall2
import Mathlib.Data.List.Infix
import SafeDelete.Text.Glob

namespace SafeDelete.Glob

/-- What a character of a pattern stands for: a star for any characters, a question mark for any one
character, and every other character for itself. -/
inductive StandsFor : Char → Text → Prop where
  | run (text : Text) : StandsFor '*' text
  | one (c : Char) : StandsFor '?' [c]
  | itself {c : Char} : c ≠ '*' → c ≠ '?' → StandsFor c [c]

/-- A pattern matches a text that can be cut into parts, one for each character of the pattern, which
stands for that part. -/
def Matches (pattern text : Text) : Prop :=
  ∃ parts, List.Forall₂ StandsFor pattern parts ∧ text = parts.flatten

theorem matches_nil_iff {text : Text} : Matches [] text ↔ text = [] := by
  constructor
  · rintro ⟨parts, none, rfl⟩
    cases none
    rfl
  · rintro rfl
    exact ⟨[], .nil, rfl⟩

theorem matches_cons_iff {c : Char} {pattern text : Text} :
    Matches (c :: pattern) text ↔
      ∃ front back, text = front ++ back ∧ StandsFor c front ∧ Matches pattern back := by
  constructor
  · rintro ⟨parts, all, rfl⟩
    cases all with
    | cons first rest => exact ⟨_, _, rfl, first, _, rest, rfl⟩
  · rintro ⟨front, _, rfl, first, parts, rest, rfl⟩
    exact ⟨front :: parts, .cons first rest, rfl⟩

theorem standsFor_mark_iff {text : Text} : StandsFor '?' text ↔ ∃ c, text = [c] := by
  constructor
  · intro stands
    cases stands with
    | one c => exact ⟨c, rfl⟩
    | itself _ noMark => exact absurd rfl noMark
  · rintro ⟨c, rfl⟩
    exact .one c

theorem standsFor_iff_of_ne {c : Char} {text : Text} (noStar : c ≠ '*') (noMark : c ≠ '?') :
    StandsFor c text ↔ text = [c] := by
  constructor
  · intro stands
    cases stands with
    | run => exact absurd rfl noStar
    | one => exact absurd rfl noMark
    | itself => rfl
  · rintro rfl
    exact .itself noStar noMark

/-!
### Rows

A row holds the answers of one question about every ending of a text.  Each piece of a pattern turns
the question that the rest of the pattern asks of an ending into its own.
-/

/-- What a piece asks of an ending, where the rest of the pattern asks `rest` of what follows. -/
def asks (piece : GlobPiece) (rest : Text → Bool) (ending : Text) : Bool :=
  match piece, ending with
  | .run, ending => ending.tails.any rest
  | .one, [] => false
  | .one, _ :: after => rest after
  | .exactly _, [] => false
  | .exactly c, d :: after => d == c && rest after

/-- The answers about every ending of a text. -/
def answers (question : Text → Bool) (text : Text) : List Bool :=
  text.tails.map question

theorem answers_cons (question : Text → Bool) (c : Char) (text : Text) :
    answers question (c :: text) = question (c :: text) :: answers question text :=
  rfl

theorem headD_answers (question : Text → Bool) (text : Text) :
    (answers question text).headD false = question text := by
  cases text <;> rfl

theorem orLater_answers (rest : Text → Bool) (text : Text) :
    orLater (answers rest text) = answers (asks .run rest) text := by
  induction text with
  | nil => simp [answers, orLater, asks]
  | cons c text ih =>
      have first : orLater (answers rest (c :: text)) =
          (rest (c :: text) || (orLater (answers rest text)).headD false) ::
            orLater (answers rest text) := by
        rw [answers_cons]
        rfl
      rw [first, ih, headD_answers, answers_cons]
      simp [asks]

theorem tail_answers_append (rest : Text → Bool) (text : Text) :
    (answers rest text).tail ++ [false] = answers (asks .one rest) text := by
  induction text with
  | nil => rfl
  | cons c text ih =>
      rw [answers_cons, answers_cons, List.tail_cons, ← ih, asks]
      cases text <;> rfl

theorem zipWith_answers (c : Char) (rest : Text → Bool) (text : Text) :
    List.zipWith (fun d flag => d == c && flag) text (answers rest text).tail ++ [false] =
      answers (asks (.exactly c) rest) text := by
  induction text with
  | nil => rfl
  | cons d text ih =>
      rw [answers_cons, answers_cons, List.tail_cons, ← ih, asks]
      cases text <;> rfl

theorem rowBefore_answers (piece : GlobPiece) (rest : Text → Bool) (text : Text) :
    rowBefore text piece (answers rest text) = answers (asks piece rest) text := by
  cases piece with
  | run => exact orLater_answers rest text
  | one => exact tail_answers_append rest text
  | exactly c => exact zipWith_answers c rest text

theorem emptyRow_eq (text : Text) : emptyRow text = answers List.isEmpty text := by
  induction text with
  | nil => rfl
  | cons c text ih =>
      rw [answers_cons, ← ih]
      rfl

/-- A row answers what the pattern asks. -/
theorem row_eq (glob : Glob) (text : Text) :
    row glob text = answers (glob.foldr asks List.isEmpty) text := by
  induction glob with
  | nil => exact emptyRow_eq text
  | cons piece glob ih =>
      rw [row, List.foldr_cons, ← row, ih, rowBefore_answers, List.foldr_cons]

theorem accepts_nil (text : Text) : accepts [] text = text.isEmpty := by
  rw [accepts, row_eq, headD_answers]
  rfl

theorem accepts_cons (piece : GlobPiece) (glob : Glob) (text : Text) :
    accepts (piece :: glob) text = asks piece (accepts glob) text := by
  have question : ∀ glob, accepts glob = glob.foldr asks List.isEmpty := fun glob => by
    funext text
    rw [accepts, row_eq, headD_answers]
  rw [question, question, List.foldr_cons]

/-! ### Matching -/

/-- The piece that a character of a pattern is read as. -/
def pieceOf (c : Char) : GlobPiece :=
  if c = '*' then .run else if c = '?' then .one else .exactly c

theorem asks_run_iff {rest : Text → Bool} {text : Text} :
    asks .run rest text = true ↔ ∃ front back, text = front ++ back ∧ rest back = true := by
  rw [asks, List.any_eq_true]
  constructor
  · rintro ⟨back, ending, accepted⟩
    obtain ⟨front, rfl⟩ := (List.mem_tails _ _).mp ending
    exact ⟨front, back, rfl, accepted⟩
  · rintro ⟨front, back, rfl, accepted⟩
    exact ⟨back, (List.mem_tails _ _).mpr (List.suffix_append front back), accepted⟩

theorem asks_one_iff {rest : Text → Bool} {text : Text} :
    asks .one rest text = true ↔ ∃ c back, text = c :: back ∧ rest back = true := by
  cases text with
  | nil => simp [asks]
  | cons c back => simp [asks]

theorem asks_exactly_iff {c : Char} {rest : Text → Bool} {text : Text} :
    asks (.exactly c) rest text = true ↔ ∃ back, text = c :: back ∧ rest back = true := by
  cases text with
  | nil => simp [asks]
  | cons d back => simp [asks, and_assoc]

/-- A piece asks that the text begins with what its character stands for. -/
theorem asks_pieceOf_iff {c : Char} {rest : Text → Bool} {text : Text} :
    asks (pieceOf c) rest text = true ↔
      ∃ front back, text = front ++ back ∧ StandsFor c front ∧ rest back = true := by
  unfold pieceOf
  by_cases star : c = '*'
  · subst star
    rw [if_pos rfl, asks_run_iff]
    constructor
    · rintro ⟨front, back, eq, accepted⟩
      exact ⟨front, back, eq, .run front, accepted⟩
    · rintro ⟨front, back, eq, -, accepted⟩
      exact ⟨front, back, eq, accepted⟩
  by_cases mark : c = '?'
  · subst mark
    rw [if_neg star, if_pos rfl, asks_one_iff]
    constructor
    · rintro ⟨c, back, rfl, accepted⟩
      exact ⟨[c], back, rfl, .one c, accepted⟩
    · rintro ⟨front, back, rfl, stands, accepted⟩
      obtain ⟨c, rfl⟩ := standsFor_mark_iff.mp stands
      exact ⟨c, back, rfl, accepted⟩
  · rw [if_neg star, if_neg mark, asks_exactly_iff]
    constructor
    · rintro ⟨back, rfl, accepted⟩
      exact ⟨[c], back, rfl, .itself star mark, accepted⟩
    · rintro ⟨front, back, rfl, stands, accepted⟩
      obtain rfl := (standsFor_iff_of_ne star mark).mp stands
      exact ⟨back, rfl, accepted⟩

/-- A pattern accepts the texts that it matches. -/
theorem accepts_ofText_iff {pattern text : Text} :
    (ofText pattern).accepts text = true ↔ Matches pattern text := by
  induction pattern generalizing text with
  | nil =>
      have read : ofText [] = [] := rfl
      rw [read, accepts_nil, List.isEmpty_iff, matches_nil_iff]
  | cons c pattern ih =>
      have read : ofText (c :: pattern) = pieceOf c :: ofText pattern := rfl
      rw [read, accepts_cons, asks_pieceOf_iff, matches_cons_iff]
      simp only [ih]

end SafeDelete.Glob
