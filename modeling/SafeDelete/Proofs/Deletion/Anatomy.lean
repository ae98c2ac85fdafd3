/-
Module: SafeDelete.Proofs.Deletion.Anatomy
Purpose: The shapes of the commands in which a delete is found.
Main exports: Deletion.RunsDelete, Deletion.findAction?_eq_none_iff,
  Deletion.findAction?_eq_some_iff, Deletion.Anatomy, Deletion.inWords?_eq_some_iff,
  Deletion.mem_inSegments
-/
import Mathlib.Tactic.SplitIfs
import SafeDelete.Deletion.Match
import SafeDelete.Proofs.Shell.Prefix

namespace SafeDelete.Deletion

open Shell

/-!
### Actions of find
-/

/-- A word with which find announces the command that it is to run. -/
def IsAction (word : Text) : Prop :=
  word = "-exec" ∨ word = "-execdir"

instance decidableIsAction : DecidablePred IsAction := fun word =>
  inferInstanceAs (Decidable (word = "-exec" ∨ word = "-execdir"))

/-- Somewhere among the words, an action of find is followed by the delete command. -/
def RunsDelete (words : List Text) : Prop :=
  ∃ front action rest, words = front ++ action :: deleteCommand :: rest ∧ IsAction action

theorem not_runsDelete_nil : ¬RunsDelete [] := by
  rintro ⟨front, action, rest, eq, _⟩
  simp at eq

theorem not_runsDelete_singleton (word : Text) : ¬RunsDelete [word] := by
  rintro ⟨front, action, rest, eq, _⟩
  have lengths := congrArg List.length eq
  simp at lengths
  omega

theorem runsDelete_cons_cons {first second : Text} {rest : List Text} :
    RunsDelete (first :: second :: rest) ↔
      IsAction first ∧ second = deleteCommand ∨ RunsDelete (second :: rest) := by
  constructor
  · rintro ⟨front, action, later, eq, isAction⟩
    cases front with
    | nil =>
        obtain ⟨rfl, tail⟩ := List.cons.inj eq
        exact Or.inl ⟨isAction, (List.cons.inj tail).1⟩
    | cons word front => exact Or.inr ⟨front, action, later, (List.cons.inj eq).2, isAction⟩
  · rintro (⟨isAction, rfl⟩ | ⟨front, action, later, eq, isAction⟩)
    · exact ⟨[], first, rest, rfl, isAction⟩
    · exact ⟨first :: front, action, later, by rw [eq]; rfl, isAction⟩

/-- A word that is neither an action nor the delete command divides what is left to look through. -/
theorem runsDelete_append_cons {word : Text} (notAction : ¬IsAction word)
    (notDelete : word ≠ deleteCommand) (front back : List Text) :
    RunsDelete (front ++ word :: back) ↔ RunsDelete front ∨ RunsDelete back := by
  induction front with
  | nil =>
      cases back with
      | nil => simp [not_runsDelete_nil, not_runsDelete_singleton]
      | cons next rest => simp [runsDelete_cons_cons, notAction, not_runsDelete_nil]
  | cons first front ih =>
      cases front with
      | nil =>
          rw [List.cons_append, List.nil_append, runsDelete_cons_cons]
          simpa [notDelete, not_runsDelete_nil, not_runsDelete_singleton] using ih
      | cons second rest =>
          rw [List.cons_append, List.cons_append, runsDelete_cons_cons, runsDelete_cons_cons,
            ← List.cons_append, ih, or_assoc]

theorem findAction?_eq_none_iff (index : Nat) (words : List Text) :
    findAction? index words = none ↔ ¬RunsDelete words := by
  fun_induction findAction? index words with
  | case1 index action program rest here =>
      rw [runsDelete_cons_cons]
      exact ⟨fun eq => by contradiction, fun none => absurd (Or.inl here) none⟩
  | case2 index action program rest here ih =>
      rw [ih, runsDelete_cons_cons]
      exact not_congr (or_iff_right here).symm
  | case3 words index short =>
      simp only [true_iff]
      cases words with
      | nil => exact not_runsDelete_nil
      | cons first rest =>
          cases rest with
          | nil => exact not_runsDelete_singleton first
          | cons second rest => exact absurd rfl (short first second rest)

theorem findAction?_cons_cons_of_not {first second : Text}
    (notHere : ¬(IsAction first ∧ second = deleteCommand)) (index : Nat) (rest : List Text) :
    findAction? index (first :: second :: rest) = findAction? (index + 1) (second :: rest) := by
  rw [findAction?]
  exact if_neg notHere

theorem findAction?_append {front : List Text} {action : Text} (isAction : IsAction action)
    (first : ¬RunsDelete (front ++ [action])) (index : Nat) (rest : List Text) :
    findAction? index (front ++ action :: deleteCommand :: rest) =
      some (index + (front.length + 1)) := by
  induction front generalizing index with
  | nil => rw [List.nil_append, findAction?, if_pos ⟨isAction, rfl⟩, List.length_nil, Nat.zero_add]
  | cons word front ih =>
      obtain ⟨next, more, headed⟩ : ∃ next more, front ++ [action] = next :: more := by
        cases front with
        | nil => exact ⟨action, [], rfl⟩
        | cons next more => exact ⟨next, more ++ [action], rfl⟩
      rw [List.cons_append, headed, runsDelete_cons_cons, ← headed, not_or] at first
      have later := ih first.2 (index + 1)
      rw [List.append_cons, headed] at later
      rw [List.append_cons, List.cons_append, headed, List.cons_append, List.cons_append,
        findAction?_cons_cons_of_not first.1, ← List.cons_append, later, List.length_cons]
      congr 1
      omega

/-- The delete that is found is the first one behind an action. -/
theorem findAction?_eq_some_iff {index found : Nat} {words : List Text} :
    findAction? index words = some found ↔
      ∃ front action rest, words = front ++ action :: deleteCommand :: rest ∧ IsAction action ∧
        ¬RunsDelete (front ++ [action]) ∧ found = index + (front.length + 1) := by
  constructor
  · intro eq
    fun_induction findAction? index words with
    | case1 index action program rest here =>
        obtain ⟨isAction, rfl⟩ := here
        exact ⟨[], action, rest, rfl, isAction, not_runsDelete_singleton action,
          (Option.some.inj eq).symm⟩
    | case2 index action program rest here ih =>
        obtain ⟨front, later, tail, split, isAction, first, rfl⟩ := ih eq
        obtain ⟨more, headed⟩ : ∃ more, front ++ [later] = program :: more := by
          cases front <;> simp_all
        refine ⟨action :: front, later, tail, by rw [split]; rfl, isAction, ?_, ?_⟩
        · rw [List.cons_append, headed, runsDelete_cons_cons, ← headed]
          rintro (here' | later)
          · exact here here'
          · exact first later
        · rw [List.length_cons]
          omega
    | case3 index words short => simp at eq
  · rintro ⟨front, action, rest, rfl, isAction, first, rfl⟩
    exact findAction?_append isAction first index rest

instance decidableRunsDelete : DecidablePred RunsDelete := fun words =>
  decidable_of_iff (findAction? 0 words ≠ none)
    (by rw [Ne, findAction?_eq_none_iff, not_not])

/-!
### One segment
-/

/-- What a delete that is found among the words of a segment says about them. -/
inductive Anatomy (words : List Text) : Deletion → Prop where
  | direct {before : Prefix} {arguments : List Text}
      (split : Prefix.split words = (before, deleteCommand :: arguments))
      (targets : (Operands.ofWords arguments).targets ≠ []) :
      Anatomy words ⟨.direct, before.length, before, .ofWords arguments⟩
  | xargs {before : Prefix} {options rest : List Text}
      (split : Prefix.split words =
        (before, ("xargs" : Text) :: (options ++ deleteCommand :: rest)))
      (dashed : ∀ option ∈ options, Text.startsWith "-" option = true) :
      Anatomy words ⟨.xargs, before.length + 1 + options.length, .empty, .ofWords rest⟩
  | findExec {before : Prefix} {front rest : List Text} {action : Text}
      (split : Prefix.split words =
        (before, ("find" : Text) :: (front ++ action :: deleteCommand :: rest)))
      (isAction : IsAction action) (first : ¬RunsDelete (front ++ [action])) :
      Anatomy words
        ⟨.findExec, before.length + 1 + (front.length + 1), .empty, ⟨[], false⟩⟩

theorem anatomy_of_inWords? {words : List Text} {deletion : Deletion}
    (found : inWords? words = some deletion) : Anatomy words deletion := by
  rw [inWords?] at found
  split at found
  · contradiction
  · rename_i before program arguments split
    split_ifs at found with isXargs isFind isDelete
    · subst isXargs
      have whole := @List.takeWhile_append_dropWhile _ (Text.startsWith "-") arguments
      split at found
      · contradiction
      · rename_i word rest eq
        split_ifs at found with isDelete
        obtain rfl := Option.some.inj found
        rw [eq, isDelete] at whole
        rw [← whole] at split
        exact .xargs split fun _ mem => List.mem_takeWhile_imp mem
    · obtain ⟨index, action, rfl⟩ := Option.map_eq_some_iff.mp found
      obtain ⟨front, word, rest, rfl, isAction, first, rfl⟩ := findAction?_eq_some_iff.mp action
      exact .findExec (isFind ▸ split) isAction first
    · simp only at found
      split_ifs at found with empty
      obtain rfl := Option.some.inj found
      exact .direct (isDelete ▸ split) (by simpa using empty)

/-- Behind a program that runs no other, there is no delete. -/
theorem inWords?_eq_none_of_split {words arguments : List Text} {before : Prefix} {program : Text}
    (split : Prefix.split words = (before, program :: arguments))
    (notXargs : program ≠ ("xargs" : Text)) (notFind : program ≠ ("find" : Text))
    (notDelete : program ≠ deleteCommand) : inWords? words = none := by
  rw [inWords?, split]
  simp only [if_neg notXargs, if_neg notFind, if_neg notDelete]

/-- Behind xargs and its options, nothing but the delete command is a delete. -/
theorem inWords?_of_xargs {words options rest : List Text} {before : Prefix} {word : Text}
    (split : Prefix.split words = (before, ("xargs" : Text) :: (options ++ word :: rest)))
    (dashed : ∀ option ∈ options, Text.startsWith "-" option = true)
    (notDashed : Text.startsWith "-" word = false) :
    inWords? words =
      if word = deleteCommand then
        some ⟨.xargs, before.length + 1 + options.length, .empty, .ofWords rest⟩
      else none := by
  have notOption : ¬Text.startsWith "-" word = true := by
    rw [notDashed]
    decide
  have taken : (options ++ word :: rest).takeWhile (Text.startsWith "-") = options := by
    rw [List.takeWhile_append_of_pos dashed, List.takeWhile_cons_of_neg notOption,
      List.append_nil]
  have behind : (options ++ word :: rest).dropWhile (Text.startsWith "-") = word :: rest := by
    rw [List.dropWhile_append_of_pos dashed, List.dropWhile_cons_of_neg notOption]
  rw [inWords?, split]
  simp only [if_true, behind, taken]

/-- Behind find, the delete is where one of its actions first runs the delete command. -/
theorem inWords?_of_find {words arguments : List Text} {before : Prefix}
    (split : Prefix.split words = (before, ("find" : Text) :: arguments)) :
    inWords? words = (findAction? (before.length + 1) arguments).map fun index =>
      ⟨.findExec, index, .empty, ⟨[], false⟩⟩ := by
  have notXargs : ("find" : Text) ≠ "xargs" := by decide
  rw [inWords?, split]
  simp only [if_neg notXargs, if_true]

/-- A delete that is the program itself needs a target. -/
theorem inWords?_of_direct {words arguments : List Text} {before : Prefix}
    (split : Prefix.split words = (before, deleteCommand :: arguments)) :
    inWords? words =
      if (Operands.ofWords arguments).targets.isEmpty then none
      else some ⟨.direct, before.length, before, .ofWords arguments⟩ := by
  have notXargs : deleteCommand ≠ ("xargs" : Text) := by decide
  have notFind : deleteCommand ≠ ("find" : Text) := by decide
  rw [inWords?, split]
  simp only [if_neg notXargs, if_neg notFind, if_true]

theorem isSome_inWords?_of_find {words arguments : List Text} {before : Prefix}
    (split : Prefix.split words = (before, ("find" : Text) :: arguments)) :
    (inWords? words).isSome = true ↔ RunsDelete arguments := by
  rw [inWords?_of_find split, Option.isSome_map, Option.isSome_iff_ne_none, Ne,
    findAction?_eq_none_iff, not_not]

/-- The shapes are exactly those in which a delete is found. -/
theorem inWords?_eq_some_iff {words : List Text} {deletion : Deletion} :
    inWords? words = some deletion ↔ Anatomy words deletion := by
  constructor
  · exact anatomy_of_inWords?
  · intro anatomy
    cases anatomy with
    | direct split targets =>
        rw [inWords?_of_direct split]
        exact if_neg fun none => targets (List.isEmpty_iff.mp none)
    | xargs split dashed => rw [inWords?_of_xargs split dashed (by decide), if_pos rfl]
    | findExec split isAction first =>
        rw [inWords?_of_find split, findAction?_append isAction first]
        rfl

theorem take_of_split {words rest : List Text} {before : Prefix}
    (split : Prefix.split words = (before, rest)) : words.take before.length = before.words := by
  rw [← Prefix.words_append_of_split split, ← Prefix.length_words, List.take_left]

theorem take_of_split_cons {words front rest : List Text} {before : Prefix} {program : Text}
    (split : Prefix.split words = (before, program :: (front ++ rest))) :
    words.take (before.length + 1 + front.length) = before.words ++ program :: front := by
  rw [← Prefix.words_append_of_split split, ← List.cons_append, ← List.append_assoc]
  exact List.take_left' (by simp; omega)

/-- The delete that is found among words stands where its index says. -/
theorem Anatomy.exists_split {words : List Text} {deletion : Deletion}
    (anatomy : Anatomy words deletion) :
    ∃ front rest, words = front ++ deleteCommand :: rest ∧ deletion.index = front.length := by
  cases anatomy with
  | direct split targets =>
      exact ⟨_, _, (Prefix.words_append_of_split split).symm, (Prefix.length_words _).symm⟩
  | @xargs before options rest split dashed =>
      refine ⟨before.words ++ ("xargs" : Text) :: options, rest, ?_, ?_⟩
      · simpa using (Prefix.words_append_of_split split).symm
      · simp
        omega
  | @findExec before front rest action split isAction first =>
      refine ⟨before.words ++ ("find" : Text) :: (front ++ [action]), rest, ?_, ?_⟩
      · simpa using (Prefix.words_append_of_split split).symm
      · simp
        omega

theorem Anatomy.words_eq {words : List Text} {deletion : Deletion}
    (anatomy : Anatomy words deletion) :
    words = words.take deletion.index ++ deleteCommand :: words.drop (deletion.index + 1) := by
  obtain ⟨front, rest, rfl, index⟩ := anatomy.exists_split
  simp [index]

theorem Anatomy.getElem?_index {words : List Text} {deletion : Deletion}
    (anatomy : Anatomy words deletion) : words[deletion.index]? = some deleteCommand := by
  obtain ⟨front, rest, rfl, index⟩ := anatomy.exists_split
  simp [index]

/-!
### All segments
-/

theorem mem_inSegmentsFrom {segments : List Segment} {start index : Nat} {deletion : Deletion} :
    (index, deletion) ∈ inSegmentsFrom start segments ↔
      ∃ offset segment, index = start + offset ∧ segments[offset]? = some segment ∧
        inSegment? segment = some deletion := by
  induction segments generalizing start with
  | nil => simp [inSegmentsFrom]
  | cons segment rest ih =>
      rw [inSegmentsFrom, List.mem_append, ih]
      constructor
      · rintro (here | ⟨offset, later, rfl, stands, found⟩)
        · rw [Option.mem_toList, Option.map_eq_some_iff] at here
          obtain ⟨_, found, eq⟩ := here
          obtain ⟨rfl, rfl⟩ := Prod.mk.inj eq
          exact ⟨0, segment, rfl, rfl, found⟩
        · exact ⟨offset + 1, later, by omega, stands, found⟩
      · rintro ⟨offset, later, rfl, stands, found⟩
        cases offset with
        | zero =>
            obtain rfl := Option.some.inj stands
            exact Or.inl (by simp [found])
        | succ offset => exact Or.inr ⟨offset, later, by omega, stands, found⟩

/-- A segment has at most one delete, which is listed under the index of the segment. -/
theorem mem_inSegments {segments : List Segment} {index : Nat} {deletion : Deletion} :
    (index, deletion) ∈ inSegments segments ↔
      ∃ segment, segments[index]? = some segment ∧ inSegment? segment = some deletion := by
  rw [inSegments, mem_inSegmentsFrom]
  simp

theorem exists_mem_inCommand {command : Text} {index : Nat} :
    (∃ deletion, (index, deletion) ∈ inCommand command) ↔
      ∃ segment ∈ (segments command)[index]?, (inSegment? segment).isSome = true := by
  simp only [inCommand, mem_inSegments, Option.isSome_iff_exists]
  constructor
  · rintro ⟨deletion, segment, stands, found⟩
    exact ⟨segment, stands, deletion, found⟩
  · rintro ⟨segment, stands, deletion, found⟩
    exact ⟨deletion, segment, stands, found⟩

theorem inSegments_eq_nil {segments : List Segment} :
    inSegments segments = [] ↔ ∀ segment ∈ segments, inSegment? segment = none := by
  rw [List.eq_nil_iff_forall_not_mem]
  constructor
  · intro none segment mem
    obtain ⟨index, stands⟩ := List.mem_iff_getElem?.mp mem
    cases found : inSegment? segment with
    | none => rfl
    | some deletion => exact absurd (mem_inSegments.mpr ⟨segment, stands, found⟩) (none _)
  · rintro none ⟨index, deletion⟩ mem
    obtain ⟨segment, stands, found⟩ := mem_inSegments.mp mem
    rw [none segment (List.mem_iff_getElem?.mpr ⟨index, stands⟩)] at found
    contradiction

end SafeDelete.Deletion
