/-
Module: SafeDelete.Proofs.Shell.Prefix
Purpose: The words before the program of a command are split off in order, and independently of the
  program that they stand before.
Main exports: Shell.Assigns, Shell.isAssignment_iff, Shell.Prefix.words,
  Shell.Prefix.words_append_of_split, Shell.Prefix.IsProgram, Shell.Prefix.IsComplete,
  Shell.Prefix.IsComplete.split_words_append, Shell.Prefix.StandsBefore,
  Shell.Prefix.standsBefore_split, Shell.Prefix.split_append
-/
import Mathlib.Data.List.TakeWhile
import SafeDelete.Shell.Prefix
import SafeDelete.Text.Blank

namespace SafeDelete.Shell

/-!
### Assignments
-/

/-- An assignment as it is spelled: a name, which starts with no digit, an equals sign, and whatever
follows. -/
def Assigns (word : Text) : Prop :=
  ∃ first name value, word = first :: (name ++ '=' :: value) ∧ isNameStart first = true ∧
    ∀ c ∈ name, isNameChar c = true

theorem isAssignment_iff {word : Text} : isAssignment word = true ↔ Assigns word := by
  constructor
  · intro assignment
    cases word with
    | nil => contradiction
    | cons first rest =>
        rw [isAssignment, Bool.and_eq_true, beq_iff_eq] at assignment
        obtain ⟨start, equals⟩ := assignment
        obtain ⟨value, behind⟩ := List.head?_eq_some_iff.mp equals
        refine ⟨first, rest.takeWhile isNameChar, value, ?_, start,
          fun c mem => List.mem_takeWhile_imp mem⟩
        rw [← behind, List.takeWhile_append_dropWhile]
  · rintro ⟨first, name, value, rfl, start, isName⟩
    have equals : isNameChar '=' = false := by decide
    rw [isAssignment, start, List.dropWhile_append_of_pos isName,
      List.dropWhile_cons_of_neg (by simp [equals])]
    rfl

namespace Prefix

/-- All words of a prefix, in order. -/
def words (p : Prefix) : List Text :=
  p.assignments ++ p.elevation

@[simp] theorem length_words (p : Prefix) : p.words.length = p.length :=
  List.length_append

theorem splitSudoOptions_append (words : List Text) :
    (splitSudoOptions words).1 ++ (splitSudoOptions words).2 = words := by
  fun_induction splitSudoOptions words <;> simp_all

theorem splitSudo_append (words : List Text) :
    (splitSudo words).1 ++ (splitSudo words).2 = words := by
  cases words with
  | nil => rfl
  | cons word rest =>
      rw [splitSudo]
      split
      · simp [splitSudoOptions_append]
      · rfl

/-- Splitting off a prefix loses no word. -/
theorem words_append_of_split {words after : List Text} {p : Prefix}
    (split : Prefix.split words = (p, after)) : p.words ++ after = words := by
  rw [Prefix.split, Prod.mk.injEq] at split
  obtain ⟨rfl, rfl⟩ := split
  rw [Prefix.words, List.append_assoc, splitSudo_append, List.takeWhile_append_dropWhile]

/-!
### Another program
-/

/-- A word that no prefix can take for one of its own. -/
structure IsProgram (word : Text) : Prop where
  notAssignment : isAssignment word = false
  notSudo : word ≠ "sudo"
  notDashed : Text.startsWith "-" word = false

theorem dashed_of_mem_sudoOptionsWithArgument :
    ∀ option ∈ sudoOptionsWithArgument, Text.startsWith "-" option = true := by
  decide

theorem splitSudoOptions_of_isProgram {program : Text} (isProgram : IsProgram program)
    (arguments : List Text) :
    splitSudoOptions (program :: arguments) = ([], program :: arguments) := by
  have noArgument : program ∉ sudoOptionsWithArgument := by
    intro mem
    have dashed := dashed_of_mem_sudoOptionsWithArgument program mem
    rw [isProgram.notDashed] at dashed
    contradiction
  cases arguments with
  | nil => rw [splitSudoOptions, isProgram.notDashed]; rfl
  | cons argument rest => rw [splitSudoOptions, if_neg noArgument, isProgram.notDashed]; rfl

theorem splitSudoOptions_cons_of_dashed {option : Text} (lone : option ∉ sudoOptionsWithArgument)
    (dashed : Text.startsWith "-" option = true) (rest : List Text) :
    splitSudoOptions (option :: rest) =
      (option :: (splitSudoOptions rest).1, (splitSudoOptions rest).2) := by
  cases rest with
  | nil => simp only [splitSudoOptions, if_pos dashed]
  | cons argument rest => rw [splitSudoOptions, if_neg lone, if_pos dashed]

/-!
### Complete prefixes

A prefix is complete where an option of sudo that takes an argument has it.  Only such a prefix can
stand before a program, and it is split off alike before whatever program follows it.
-/

/-- Options of sudo, those that take an argument with it. -/
inductive AreSudoOptions : List Text → Prop where
  | nil : AreSudoOptions []
  | withArgument {option argument : Text} {rest : List Text}
      (takes : option ∈ sudoOptionsWithArgument) (later : AreSudoOptions rest) :
      AreSudoOptions (option :: argument :: rest)
  | alone {option : Text} {rest : List Text} (lone : option ∉ sudoOptionsWithArgument)
      (dashed : Text.startsWith "-" option = true) (later : AreSudoOptions rest) :
      AreSudoOptions (option :: rest)

/-- Any number of assignments, and then at most one sudo with its options. -/
structure IsComplete (p : Prefix) : Prop where
  assignments : ∀ word ∈ p.assignments, isAssignment word = true
  elevation : p.elevation = [] ∨
    ∃ options, p.elevation = ("sudo" : Text) :: options ∧ AreSudoOptions options

theorem splitSudoOptions_append_of_areSudoOptions {options : List Text}
    (are : AreSudoOptions options) (rest : List Text) :
    splitSudoOptions (options ++ rest) =
      (options ++ (splitSudoOptions rest).1, (splitSudoOptions rest).2) := by
  induction are with
  | nil => rfl
  | withArgument takes later ih =>
      rw [List.cons_append, List.cons_append, splitSudoOptions, if_pos takes, ih]
      rfl
  | alone lone dashed later ih =>
      rw [List.cons_append, splitSudoOptions_cons_of_dashed lone dashed, ih]
      rfl

theorem splitSudoOptions_of_areSudoOptions {options : List Text} (are : AreSudoOptions options)
    {program : Text} (isProgram : IsProgram program) (arguments : List Text) :
    splitSudoOptions (options ++ program :: arguments) = (options, program :: arguments) := by
  rw [splitSudoOptions_append_of_areSudoOptions are, splitSudoOptions_of_isProgram isProgram,
    List.append_nil]

/-- A complete prefix is split off before whatever program follows it. -/
theorem IsComplete.split_words_append {p : Prefix} (complete : p.IsComplete) {program : Text}
    (isProgram : IsProgram program) (arguments : List Text) :
    Prefix.split (p.words ++ program :: arguments) = (p, program :: arguments) := by
  -- What follows the assignments starts with sudo or the program, neither of them an assignment.
  have elevated : splitSudo (p.elevation ++ program :: arguments) =
        (p.elevation, program :: arguments) ∧
      ∃ word rest, p.elevation ++ program :: arguments = word :: rest ∧
        isAssignment word = false := by
    rcases complete.elevation with none | ⟨options, eq, are⟩
    · rw [none, List.nil_append, splitSudo, if_neg isProgram.notSudo]
      exact ⟨rfl, program, arguments, rfl, isProgram.notAssignment⟩
    · rw [eq, List.cons_append, splitSudo, if_pos rfl,
        splitSudoOptions_of_areSudoOptions are isProgram]
      exact ⟨rfl, _, _, rfl, by decide⟩
  obtain ⟨split, word, rest, eq, notAssignment⟩ := elevated
  rw [Prefix.words, List.append_assoc, Prefix.split,
    List.takeWhile_append_of_pos complete.assignments,
    List.dropWhile_append_of_pos complete.assignments, eq,
    List.takeWhile_cons_of_neg (by simp [notAssignment]),
    List.dropWhile_cons_of_neg (by simp [notAssignment]), ← eq, split, List.append_nil]

/-!
### Prefixes in front of other words

Where no word is left for it, an option of sudo that takes an argument may stand without one.
-/

/-- Options of sudo in front of the words `after`: with their arguments, but for a last option that
no word is left for. -/
def AreOptionsBefore (after options : List Text) : Prop :=
  AreSudoOptions options ∨
    after = [] ∧ ∃ front option, options = front ++ [option] ∧ AreSudoOptions front ∧
      option ∈ sudoOptionsWithArgument

/-- Words that can be split off in front of the words `after`: any number of assignments, and then
at most one sudo with its options. -/
structure StandsBefore (p : Prefix) (after : List Text) : Prop where
  assignments : ∀ word ∈ p.assignments, Assigns word
  elevation : p.elevation = [] ∨
    ∃ options, p.elevation = ("sudo" : Text) :: options ∧ AreOptionsBefore after options

theorem AreOptionsBefore.withArgument {after rest : List Text} {option argument : Text}
    (takes : option ∈ sudoOptionsWithArgument) (later : AreOptionsBefore after rest) :
    AreOptionsBefore after (option :: argument :: rest) := by
  rcases later with are | ⟨last, front, unfinished, rfl, are, takesToo⟩
  · exact Or.inl (.withArgument takes are)
  · exact Or.inr ⟨last, _, unfinished, rfl, .withArgument takes are, takesToo⟩

theorem AreOptionsBefore.alone {after rest : List Text} {option : Text}
    (lone : option ∉ sudoOptionsWithArgument) (dashed : Text.startsWith "-" option = true)
    (later : AreOptionsBefore after rest) : AreOptionsBefore after (option :: rest) := by
  rcases later with are | ⟨last, front, unfinished, rfl, are, takes⟩
  · exact Or.inl (.alone lone dashed are)
  · exact Or.inr ⟨last, _, unfinished, rfl, .alone lone dashed are, takes⟩

theorem areOptionsBefore_split (words : List Text) :
    AreOptionsBefore (splitSudoOptions words).2 (splitSudoOptions words).1 := by
  fun_induction splitSudoOptions words with
  | case1 => exact Or.inl .nil
  | case2 option argument rest takes options after eq ih =>
      rw [eq] at ih
      exact ih.withArgument takes
  | case3 option argument rest lone dashed options after eq ih =>
      rw [eq] at ih
      exact ih.alone lone dashed
  | case4 option argument rest lone notDashed => exact Or.inl .nil
  | case5 option dashed =>
      by_cases takes : option ∈ sudoOptionsWithArgument
      · exact Or.inr ⟨rfl, [], option, rfl, .nil, takes⟩
      · exact Or.inl (.alone takes dashed .nil)
  | case6 option notDashed => exact Or.inl .nil

/-- What is split off can stand where it does. -/
theorem standsBefore_split (words : List Text) :
    (Prefix.split words).1.StandsBefore (Prefix.split words).2 := by
  rw [Prefix.split]
  refine ⟨fun _ mem => isAssignment_iff.mp (List.mem_takeWhile_imp mem), ?_⟩
  generalize words.dropWhile isAssignment = later
  cases later with
  | nil => exact Or.inl rfl
  | cons word rest =>
      dsimp only
      rw [splitSudo]
      split
      · rename_i isSudo
        exact Or.inr ⟨_, by rw [isSudo], areOptionsBefore_split rest⟩
      · exact Or.inl rfl

/-- What is split off before other words is complete. -/
theorem isComplete_of_split {words after : List Text} {p : Prefix}
    (split : Prefix.split words = (p, after)) (nonempty : after ≠ []) : p.IsComplete := by
  have stands := standsBefore_split words
  rw [split] at stands
  refine ⟨fun word mem => isAssignment_iff.mpr (stands.assignments word mem),
    stands.elevation.imp_right ?_⟩
  rintro ⟨options, eq, are⟩
  exact ⟨options, eq, are.resolve_right fun unfinished => nonempty unfinished.1⟩

/-- A prefix is split off alike before whatever program follows it. -/
theorem split_append {words after : List Text} {p : Prefix}
    (split : Prefix.split words = (p, after)) (nonempty : after ≠ []) {program : Text}
    (isProgram : IsProgram program) (arguments : List Text) :
    Prefix.split (p.words ++ program :: arguments) = (p, program :: arguments) :=
  (isComplete_of_split split nonempty).split_words_append isProgram arguments

theorem isBlank_of_isNameStart {c : Char} (start : isNameStart c = true) : isBlank c = false := by
  have bounds : 0x41 ≤ c.toNat ∧ c.toNat ≤ 0x7A := by
    have letter : ((c.isUpper || c.isLower) || c == '_') = true := start
    simp only [Bool.or_eq_true, beq_iff_eq] at letter
    rcases letter with (upper | lower) | rfl
    · obtain ⟨least, most⟩ := of_decide_eq_true upper
      exact ⟨least, most.trans (by decide)⟩
    · obtain ⟨least, most⟩ := Bool.and_eq_true_iff.mp lower
      exact ⟨(by decide : 0x41 ≤ 97).trans (of_decide_eq_true least), of_decide_eq_true most⟩
    · decide
  simp [isBlank]
  omega

/-- A complete prefix starts with no blank. -/
theorem IsComplete.isBlank_head {p : Prefix} (complete : p.IsComplete) :
    ∀ word ∈ p.words.head?, ∀ c ∈ word.head?, isBlank c = false := by
  intro word mem c head
  rw [Prefix.words] at mem
  cases assigned : p.assignments with
  | cons first rest =>
      obtain rfl : first = word := by simpa [assigned] using mem
      have assigns := complete.assignments first (by simp [assigned])
      cases first with
      | nil => simp at head
      | cons d name =>
          obtain rfl : d = c := by simpa using head
          rw [isAssignment, Bool.and_eq_true] at assigns
          exact isBlank_of_isNameStart assigns.1
  | nil =>
      rw [assigned, List.nil_append] at mem
      rcases complete.elevation with none | ⟨options, eq, -⟩
      · simp [none] at mem
      · obtain rfl : ("sudo" : Text) = word := by simpa [eq] using mem
        obtain rfl : 's' = c := by simpa using head
        decide

end Prefix

end SafeDelete.Shell
