/-
Module: SafeDelete.Proofs.Policy.AllowList
Purpose: A command is let through just where some pattern of the allow-list matches it as a whole.
Main exports: Glob.expression_str, AllowList.someAccepts_map_str, isAllowlisted_iff_exists,
  isAllowlisted_eq_of_perm, isAllowlisted_iff_matches
-/
import SafeDelete.Policy.AllowList
import SafeDelete.Proofs.Regex.Matching
import SafeDelete.Proofs.Text.Glob

namespace SafeDelete

/-! ## Expressions -/

namespace Glob

theorem pieceExpression_char (c : Char) :
    pieceExpression (.str [c]) = .ok (regexPiece (pieceOf c)) := by
  by_cases star : c = '*'
  · subst star
    rfl
  by_cases mark : c = '?'
  · subst mark
    rfl
  · have noStar : ([c] : Text) ≠ ['*'] := fun same => star (List.cons.inj same).1
    have noMark : ([c] : Text) ≠ ['?'] := fun same => mark (List.cons.inj same).1
    have elements : Json.elements (.str [c]) = .ok [.str [c]] := rfl
    have texts : textsExpression [.str [c]] =
        .ok ((if isSpecial c then ['\\', c] else [c]) ++ []) := rfl
    rw [pieceExpression, pieceOf, if_neg star, if_neg mark, elements]
    · simp only [bind, Except.bind, texts, List.append_nil, regexPiece]
    · simpa using noStar
    · simpa using noMark

theorem piecesExpression_chars (pattern : Text) :
    piecesExpression (pattern.map fun c => .str [c]) =
      .ok ((ofText pattern).flatMap regexPiece) := by
  induction pattern with
  | nil => rfl
  | cons c pattern ih =>
      have read : ofText (c :: pattern) = pieceOf c :: ofText pattern := rfl
      rw [List.map_cons, piecesExpression, pieceExpression_char, ih, read, List.flatMap_cons]
      rfl

/-- The characters of a text pattern make up the expression of the pattern. -/
theorem expression_str (pattern : Text) :
    expression (.str pattern) = .ok (ofText pattern).toRegex := by
  have elements : Json.elements (.str pattern) = .ok (pattern.map fun c => .str [c]) := rfl
  rw [expression, elements]
  simp only [bind, Except.bind, piecesExpression_chars]
  rfl

end Glob

/-! ## Lists of patterns -/

theorem AllowList.someAccepts_map_str (command : Text) (patterns : List Text) :
    someAccepts command (patterns.map .str) = .ok (isAllowlisted command patterns) := by
  induction patterns with
  | nil => rfl
  | cons pattern rest ih =>
      have first : isAllowlisted command (pattern :: rest) =
          ((Glob.ofText pattern).accepts command || isAllowlisted command rest) := List.any_cons
      rw [List.map_cons, someAccepts, ih, first, Glob.admits]
      cases (Glob.ofText pattern).accepts command with
      | true => rfl
      | false => rfl

theorem isAllowlisted_iff_exists {command : Text} {patterns : List Text} :
    isAllowlisted command patterns = true ↔
      ∃ pattern ∈ patterns, Glob.Matches pattern command := by
  rw [isAllowlisted, List.any_eq_true]
  simp only [Glob.accepts_ofText_iff]

theorem isAllowlisted_eq_of_perm {command : Text} {patterns reordered : List Text}
    (perm : reordered.Perm patterns) :
    isAllowlisted command reordered = isAllowlisted command patterns := by
  rw [Bool.eq_iff_iff, isAllowlisted_iff_exists, isAllowlisted_iff_exists]
  simp only [perm.mem_iff]

/-- A command is let through just where some pattern matches the whole of it.  Every pattern has an
expression that is read without a fault and that accepts just the texts the pattern matches, a search
of the list ends well, and the order of the list does not matter to it. -/
theorem isAllowlisted_iff_matches (command : Text) (patterns : List Text) :
    (isAllowlisted command patterns = true ↔ ∃ pattern ∈ patterns, Glob.Matches pattern command) ∧
    (∀ pattern : Text, ∃ expression program,
      Glob.expression (.str pattern) = .ok expression ∧
      Regex.Program.ofText? expression = .ok (some program) ∧
      ∀ text, program.accepts text = true ↔ Glob.Matches pattern text) ∧
    AllowList.admits (.arr (patterns.map .str)) command = .ok (isAllowlisted command patterns) ∧
    ∀ reordered : List Text, reordered.Perm patterns →
      isAllowlisted command reordered = isAllowlisted command patterns := by
  refine ⟨isAllowlisted_iff_exists, ?_, AllowList.someAccepts_map_str command patterns,
    fun _ => isAllowlisted_eq_of_perm⟩
  intro pattern
  refine ⟨_, _, Glob.expression_str pattern, Glob.ofText?_toRegex _, fun text => ?_⟩
  rw [Glob.accepts_program, Glob.accepts_ofText_iff]

-- A run goes over the ends of lines, and brackets stand for themselves.
example : isAllowlisted "rm -rf [a]\n'x y'\n" ["rm *", "??"] = true := by decide +kernel

end SafeDelete
