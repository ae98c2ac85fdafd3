/-
Module: SafeDelete.Proofs.Regex.Reading
Purpose: The expression of a pattern over whole texts is read without a fault, and as what tree.
Main exports: Glob.isAlphanum_of_isSpecial, GlobPiece.toRegex, Regex.Reader.parts_pieces,
  Glob.program, Glob.ofText?_toRegex
-/
import Mathlib.Tactic.Common
import SafeDelete.Regex.Parser
import SafeDelete.Text.Glob

namespace SafeDelete

open Regex

/-! ### The trees of patterns -/

/-- The tree of a piece. -/
def GlobPiece.toRegex : GlobPiece → Regex
  | .run => .repeated .greedy 0 none (.one .exact .all)
  | .one => .one .exact .all
  | .exactly c => .one .exact (.only c)

namespace Glob

/-- The parts of a pattern's tree, between the two anchors. -/
def parts (glob : Glob) : List Regex :=
  .anchor .start :: (glob.map GlobPiece.toRegex ++ [.anchor .lastLine])

/-- The expression of a pattern, which has no groups. -/
def program (glob : Glob) : Program :=
  ⟨inSequence glob.parts, ⟨0, []⟩, false⟩

theorem isAlphanum_of_isBlank {c : Char} (blank : isBlank c = true) : c.isAlphanum = false := by
  have ranges : c.isAlphanum = (decide (65 ≤ c.toNat ∧ c.toNat ≤ 90) ||
      (decide (97 ≤ c.toNat) && decide (c.toNat ≤ 122)) ||
      (decide (48 ≤ c.toNat) && decide (c.toNat ≤ 57))) := rfl
  rw [ranges]
  simp only [isBlank, Bool.or_eq_true, Bool.and_eq_true, decide_eq_true_eq, beq_iff_eq] at blank
  simp only [Bool.or_eq_false_iff, Bool.and_eq_false_iff, decide_eq_false_iff_not]
  omega

/-- What a backslash is put before is no letter and no digit, so that the backslash only takes its
meaning away. -/
theorem isAlphanum_of_isSpecial {c : Char} (special : isSpecial c = true) :
    c.isAlphanum = false := by
  have marks : ("#$&()*+-.?[\\]^|~" : Text).all (fun d => !d.isAlphanum) = true := by decide
  simp only [isSpecial, Bool.or_eq_true, beq_iff_eq, List.contains_iff_mem] at special
  rcases special with ((blank | mark) | rfl) | rfl
  · exact isAlphanum_of_isBlank blank
  · simpa using List.all_eq_true.mp marks c mark
  · rfl
  · rfl

end Glob

namespace Regex

/-- A reading under no flag but that a point stands for every character, before any group. -/
def cursorAt (rest : Text) : Cursor :=
  ⟨rest, [.dotAll], [.dotAll], false, 0, [], [], []⟩

namespace Reader

/-! ### One character at a time -/

variable {fuel : Nat} {done : List Regex} {last : Option Regex} {c d : Char} {after : Text}

theorem bind_get {α : Type} (next : Cursor → Reader α) (cursor : Cursor) :
    (get >>= next) cursor = next cursor cursor :=
  rfl

theorem bind_next? {α : Type} (next : Option Char → Reader α) (c : Char) (after : Text) :
    (next? >>= next) (cursorAt (c :: after)) = next (some c) (cursorAt after) :=
  rfl

theorem bind_nextWritten? {α : Type} (next : Option Char → Reader α) (c : Char) (after : Text) :
    (nextWritten? >>= next) (cursorAt (c :: after)) = next (some c) (cursorAt after) :=
  rfl

theorem bind_of_ok {α β : Type} {step : Reader α} {next : α → Reader β} {cursor later : Cursor}
    {value : α} (read : step cursor = .ok (value, later)) :
    (step >>= next) cursor = next value later := by
  show (step cursor >>= fun read => next read.1 read.2) = _
  rw [read]
  rfl

theorem accept_of_ne (other : d ≠ c) (after : Text) :
    accept [c] (cursorAt (d :: after)) = .ok (false, cursorAt (d :: after)) := by
  have taken : acceptAll [c] (cursorAt (d :: after)) = .ok (false, cursorAt after) := by
    rw [acceptAll, bind_next?, if_neg (by simpa using other)]
    rfl
  rw [accept, bind_get, bind_of_ok taken]
  rfl

theorem appetite_of_ne (noMark : d ≠ '?') (noPlus : d ≠ '+') :
    appetite (cursorAt (d :: after)) = .ok (.greedy, cursorAt (d :: after)) := by
  rw [appetite]
  refine (bind_of_ok (accept_of_ne noMark after)).trans ?_
  refine (bind_of_ok (accept_of_ne noPlus after)).trans ?_
  rfl

theorem plain_of_ne (noPoint : c ≠ '.') (noStart : c ≠ '^') (noFinish : c ≠ '$') :
    plain c (cursorAt after) = .ok (.one .exact (.only c), cursorAt after) := by
  rw [plain]
  · rfl
  all_goals assumption

/-- A backslash before what is no letter and no digit stands for that character. -/
theorem escaped_of_isAlphanum (mark : c.isAlphanum = false) :
    escaped (cursorAt (c :: after)) = .ok (.one .exact (.only c), cursorAt after) := by
  have other : ∀ d : Char, d.isAlphanum = true → c ≠ d := by
    rintro d letter rfl
    rw [mark] at letter
    contradiction
  obtain ⟨noLetter, noDigit⟩ : c.isAlpha = false ∧ c.isDigit = false := by
    simpa [Char.isAlphanum] using mark
  have width : hexWidth? c = none := by
    rw [hexWidth?, if_neg (other 'x' (by decide)), if_neg (other 'u' (by decide)),
      if_neg (other 'U' (by decide))]
  have read : escape false (cursorAt (c :: after)) = .ok (.code c.toNat, cursorAt after) := by
    rw [escape, bind_nextWritten?]
    refine (bind_of_ok rfl).trans ?_
    simp only [width, other 'N' (by decide), other 'p' (by decide), other 'P' (by decide), noDigit,
      noLetter]
    rfl
  rw [escaped, bind_of_ok read]
  rfl

/-! ### One part at a time -/

theorem parts_nil : parts (fuel + 1) done last (cursorAt []) =
    .ok (.ofParts (last.toList ++ done).reverse, cursorAt []) := by
  rw [parts]
  rfl

theorem parts_start : parts (fuel + 1) done last (cursorAt ('^' :: after)) =
    parts fuel (last.toList ++ done) (some (.anchor .start)) (cursorAt after) := by
  rw [parts]
  rfl

theorem parts_finish : parts (fuel + 1) done last (cursorAt ('$' :: after)) =
    parts fuel (last.toList ++ done) (some (.anchor .lastLine)) (cursorAt after) := by
  rw [parts]
  rfl

theorem parts_point : parts (fuel + 1) done last (cursorAt ('.' :: after)) =
    parts fuel (last.toList ++ done) (some (.one .exact .all)) (cursorAt after) := by
  rw [parts]
  rfl

theorem parts_star {body : Regex} (noMark : d ≠ '?') (noPlus : d ≠ '+') :
    parts (fuel + 1) done (some body) (cursorAt ('*' :: d :: after)) =
      parts fuel (withRepetition .greedy ⟨0, none⟩ body :: done) none (cursorAt (d :: after)) := by
  rw [parts, bind_get, bind_next?]
  refine (bind_of_ok rfl).trans ?_
  refine (bind_of_ok rfl).trans ?_
  exact bind_of_ok (appetite_of_ne noMark noPlus)

theorem parts_plain (plain : Glob.isSpecial c = false) :
    parts (fuel + 1) done last (cursorAt (c :: after)) =
      parts fuel (last.toList ++ done) (some (.one .exact (.only c))) (cursorAt after) := by
  have other : ∀ d : Char, Glob.isSpecial d = true → c ≠ d := by
    rintro d special rfl
    rw [plain] at special
    contradiction
  rw [parts, bind_get, bind_next?]
  simp only [other ')' (by decide), other '|' (by decide), other '(' (by decide),
    other '?' (by decide), other '*' (by decide), other '+' (by decide),
    other '\x7b' (by decide), other '\\' (by decide), other '[' (by decide), decide_false,
    Bool.or_self, Bool.false_eq_true, if_false]
  exact bind_of_ok (plain_of_ne (other _ (by decide)) (other _ (by decide)) (other _ (by decide)))

theorem parts_escaped (special : Glob.isSpecial c = true) :
    parts (fuel + 1) done last (cursorAt ('\\' :: c :: after)) =
      parts fuel (last.toList ++ done) (some (.one .exact (.only c))) (cursorAt after) := by
  rw [parts, bind_get, bind_next?]
  exact bind_of_ok (escaped_of_isAlphanum (Glob.isAlphanum_of_isSpecial special))

/-! ### A whole pattern -/

/-- What is written for a piece starts with no quantifier, so that a star before it is greedy. -/
theorem head_pieces (glob : Glob) :
    ∃ d after, glob.flatMap Glob.regexPiece ++ ['$'] = d :: after ∧ d ≠ '?' ∧ d ≠ '+' := by
  cases glob with
  | nil => exact ⟨'$', [], rfl, by decide, by decide⟩
  | cons piece glob =>
      cases piece with
      | run => exact ⟨'.', _, rfl, by decide, by decide⟩
      | one => exact ⟨'.', _, rfl, by decide, by decide⟩
      | exactly c =>
          rw [List.flatMap_cons, Glob.regexPiece]
          by_cases special : Glob.isSpecial c = true
          · rw [if_pos special]
            exact ⟨'\\', _, rfl, by decide, by decide⟩
          · rw [if_neg special]
            refine ⟨c, _, rfl, ?_, ?_⟩
            · rintro rfl
              exact special (by decide)
            · rintro rfl
              exact special (by decide)

/-- The pieces of a pattern are read one by one.  What was read before stays as it is. -/
theorem parts_pieces {glob : Glob}
    (enough : (glob.flatMap Glob.regexPiece).length + 2 ≤ fuel) :
    parts fuel done last (cursorAt (glob.flatMap Glob.regexPiece ++ ['$'])) =
      .ok (.ofParts ((last.toList ++ done).reverse ++
        (glob.map GlobPiece.toRegex ++ [.anchor .lastLine])), cursorAt []) := by
  induction glob generalizing fuel done last with
  | nil =>
      obtain ⟨fuel, rfl⟩ : ∃ more, fuel = more + 2 := ⟨fuel - 2, by simp at enough; omega⟩
      rw [List.flatMap_nil, List.nil_append, parts_finish, parts_nil]
      simp
  | cons piece glob ih =>
      rw [List.flatMap_cons, List.length_append] at enough
      rw [List.flatMap_cons, List.append_assoc]
      cases piece with
      | run =>
          have length : (Glob.regexPiece .run).length = 2 := rfl
          obtain ⟨fuel, rfl⟩ : ∃ more, fuel = more + 2 := ⟨fuel - 2, by omega⟩
          obtain ⟨d, after, rest, noMark, noPlus⟩ := head_pieces glob
          have written : Glob.regexPiece .run ++ (glob.flatMap Glob.regexPiece ++ ['$']) =
              '.' :: '*' :: d :: after := by
            rw [rest]
            rfl
          rw [written, parts_point, parts_star noMark noPlus, ← rest, ih (by omega)]
          simp [withRepetition, GlobPiece.toRegex, isEmpty]
      | one =>
          have length : (Glob.regexPiece .one).length = 1 := rfl
          obtain ⟨fuel, rfl⟩ : ∃ more, fuel = more + 1 := ⟨fuel - 1, by omega⟩
          have written : Glob.regexPiece .one ++ (glob.flatMap Glob.regexPiece ++ ['$']) =
              '.' :: (glob.flatMap Glob.regexPiece ++ ['$']) := rfl
          rw [written, parts_point, ih (by omega)]
          simp [GlobPiece.toRegex]
      | exactly c =>
          rw [Glob.regexPiece] at enough ⊢
          by_cases special : Glob.isSpecial c = true
          · rw [if_pos special] at enough ⊢
            have length : (['\\', c] : Text).length = 2 := rfl
            obtain ⟨fuel, rfl⟩ : ∃ more, fuel = more + 1 := ⟨fuel - 1, by omega⟩
            rw [List.cons_append, List.singleton_append, parts_escaped special, ih (by omega)]
            simp [GlobPiece.toRegex]
          · rw [if_neg special] at enough ⊢
            have length : ([c] : Text).length = 1 := rfl
            obtain ⟨fuel, rfl⟩ : ∃ more, fuel = more + 1 := ⟨fuel - 1, by omega⟩
            rw [List.singleton_append, parts_plain (Bool.eq_false_iff.mpr special),
              ih (by omega)]
            simp [GlobPiece.toRegex]

end Reader

theorem inSequence_cons_cons (first second : Regex) (rest : List Regex) :
    inSequence (first :: second :: rest) = .sequence first (inSequence (second :: rest)) :=
  rfl

theorem references_inSequence (parts : List Regex) :
    (inSequence parts).references = parts.flatMap references := by
  induction parts with
  | nil => rfl
  | cons part parts ih =>
      cases parts with
      | nil => exact (List.append_nil _).symm
      | cons next parts => rw [inSequence_cons_cons, references, ih, ← List.flatMap_cons]

theorem keepOnly_inSequence (used : List Nat) (parts : List Regex) :
    (inSequence parts).keepOnly used = inSequence (parts.map (·.keepOnly used)) := by
  induction parts with
  | nil => rfl
  | cons part parts ih =>
      cases parts with
      | nil => rfl
      | cons next parts =>
          rw [inSequence_cons_cons, keepOnly, ih]
          rfl

/-- Parts without characters that may be folded stay apart. -/
theorem joinRows_parts (glob : Glob) : joinRows [] glob.parts = glob.parts := by
  have pieces : joinRows [] (glob.map GlobPiece.toRegex ++ [.anchor .lastLine]) =
      glob.map GlobPiece.toRegex ++ [.anchor .lastLine] := by
    induction glob with
    | nil => rfl
    | cons piece glob ih =>
        have first : joinRows [] (piece.toRegex :: (glob.map GlobPiece.toRegex ++
            [.anchor .lastLine])) = piece.toRegex :: joinRows [] (glob.map GlobPiece.toRegex ++
            [.anchor .lastLine]) := by
          cases piece <;> rfl
        rw [List.map_cons, List.cons_append, first, ih]
  show .anchor .start :: joinRows [] (glob.map GlobPiece.toRegex ++ [.anchor .lastLine]) = _
  rw [pieces]
  rfl

end Regex

namespace Glob

theorem choices_toRegex {fuel : Nat} {glob : Glob}
    (enough : (glob.flatMap regexPiece).length + 4 ≤ fuel) :
    Reader.choices fuel (cursorAt glob.toRegex) =
      .ok (inSequence glob.parts, cursorAt []) := by
  obtain ⟨fuel, rfl⟩ : ∃ more, fuel = more + 2 := ⟨fuel - 2, by omega⟩
  have written : glob.toRegex = '^' :: (glob.flatMap regexPiece ++ ['$']) := rfl
  have read : Reader.parts (fuel + 1) [] none (cursorAt glob.toRegex) =
      .ok (inSequence glob.parts, cursorAt []) := by
    rw [written, Reader.parts_start, Reader.parts_pieces (by omega)]
    exact congrArg (fun parts => Except.ok (inSequence parts, cursorAt [])) (joinRows_parts glob)
  rw [Reader.choices, Reader.bind_of_ok read]
  rfl

/-- The tree of a pattern refers to no group. -/
theorem references_parts (glob : Glob) : (inSequence glob.parts).references = [] := by
  have none : ∀ part ∈ glob.parts, part.references = [] := by
    simp only [parts, List.mem_cons, List.mem_append, List.mem_map, List.not_mem_nil, or_false]
    rintro part (rfl | ⟨piece, -, rfl⟩ | rfl)
    · rfl
    · cases piece <;> rfl
    · rfl
  rw [references_inSequence, List.flatMap_eq_nil_iff]
  exact none

theorem keepOnly_parts (glob : Glob) (used : List Nat) :
    (inSequence glob.parts).keepOnly used = inSequence glob.parts := by
  have kept : ∀ part ∈ glob.parts, part.keepOnly used = part := by
    simp only [parts, List.mem_cons, List.mem_append, List.mem_map, List.not_mem_nil, or_false]
    rintro part (rfl | ⟨piece, -, rfl⟩ | rfl)
    · rfl
    · cases piece <;> rfl
    · rfl
  rw [keepOnly_inSequence, List.map_congr_left kept, List.map_id']

/-- The expression of a pattern is one, whatever characters are in the pattern. -/
theorem ofText?_toRegex (glob : Glob) : Program.ofText? glob.toRegex = .ok (some glob.program) := by
  have read : readUnder [.dotAll] glob.toRegex = .ok (inSequence glob.parts, cursorAt []) := by
    have choices : Reader.choices (8 * glob.toRegex.length + 8) (cursorAt glob.toRegex) =
        .ok (inSequence glob.parts, cursorAt []) := by
      refine choices_toRegex ?_
      have length : glob.toRegex.length = (glob.flatMap regexPiece).length + 2 := by
        simp [toRegex]
      omega
    show (Reader.choices (8 * glob.toRegex.length + 8) (cursorAt glob.toRegex) >>= _) = _
    rw [choices]
    rfl
  have program : programOf? (inSequence glob.parts) (cursorAt []) = some glob.program := by
    simp only [programOf?, references_parts, keepOnly_parts]
    rfl
  have whole : Program.ofText? glob.toRegex =
      .ok (programOf? (inSequence glob.parts) (cursorAt [])) := by
    show readAgain (Flag.letters.length + 1) [.dotAll] glob.toRegex = _
    rw [readAgain, if_neg (by decide), read]
    rfl
  rw [whole, program]

end Glob

end SafeDelete
