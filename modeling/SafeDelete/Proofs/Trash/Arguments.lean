/-
Module: SafeDelete.Proofs.Trash.Arguments
Purpose: Which arguments of the trash command are paths, and in which of them a bare double dash
  is one.
Main exports: Switch.Spelled, Argument.isSwitch_ofText_iff, TrashRequest.front,
  TrashRequest.OptionsFirst, TrashRequest.Sorted.Holds, TrashRequest.ofArguments_of_plain
-/
import Mathlib.Data.List.Induction
import Mathlib.Data.List.TakeWhile
import SafeDelete.Trash.Arguments

namespace SafeDelete

variable {word : Text}

/-! ## Words that spell a switch -/

/-- The word spells a switch: its letter behind a dash, with or without more behind it, or its word
behind two dashes, with or without an argument. -/
def Switch.Spelled (word : Text) : Prop :=
  ∃ switch : Switch, switch.short <+: word ∨ word = switch.long ∨ switch.long ++ ['='] <+: word

namespace Switch

theorem spelled?_eq_some {found : Switch} (spells : spelled? word = some found) :
    word = found.short ∨ word = found.long := by
  simpa using List.find?_some spells

theorem spelled?_isSome_iff :
    (spelled? word).isSome = true ↔
      ∃ switch : Switch, word = switch.short ∨ word = switch.long := by
  simp only [spelled?, all, List.find?_isSome, decide_eq_true_eq, List.mem_cons, List.not_mem_nil,
    or_false]
  constructor
  · rintro ⟨switch, -, spells⟩
    exact ⟨switch, spells⟩
  · rintro ⟨switch, spells⟩
    cases switch with
    | help => exact ⟨.help, .inl rfl, spells⟩
    | version => exact ⟨.version, .inr rfl, spells⟩

theorem ofLetter?_letter (switch : Switch) : ofLetter? switch.letter = some switch := by
  cases switch with
  | help => rfl
  | version => rfl

theorem letter_of_ofLetter? {c : Char} {found : Switch} (lettered : ofLetter? c = some found) :
    found.letter = c := by
  simpa using List.find?_some lettered

theorem startsWith_of_spelled (spelled : Spelled word) : Text.startsWith "-" word = true := by
  rw [Text.startsWith, List.isPrefixOf_iff_prefix]
  obtain ⟨switch, ⟨rest, rfl⟩ | rfl | ⟨rest, rfl⟩⟩ := spelled
  · exact ⟨switch.letter :: rest, rfl⟩
  · exact ⟨'-' :: switch.word, rfl⟩
  · exact ⟨_, rfl⟩

/-- A word cut at its first equals sign. -/
theorem cut_of_long (switch : Switch) (argument : Text) :
    (switch.long ++ '=' :: argument).takeWhile (· ≠ '=') = switch.long ∧
      (switch.long ++ '=' :: argument).dropWhile (· ≠ '=') = '=' :: argument := by
  cases switch with
  | help => exact ⟨rfl, rfl⟩
  | version => exact ⟨rfl, rfl⟩

end Switch

namespace Argument

/-- The argument has to do with a switch. -/
def isSwitch : Argument → Bool
  | .path => false
  | .unknown => false
  | .switch _ => true
  | .refused _ _ => true

theorem isSwitch_cluster (first last : Switch) (letters : Text) :
    (cluster first last letters).isSwitch = true := by
  induction letters generalizing last with
  | nil => rfl
  | cons c rest ih =>
      rw [cluster]
      split
      · exact ih _
      · rfl

theorem isSwitch_attached (found : Switch) (isLong : Bool) (argument : Text) :
    (attached found isLong argument).isSwitch = true := by
  unfold attached
  split
  · rfl
  · exact isSwitch_cluster found found argument

theorem isSwitch_ofUnknown (word : Text) : (ofUnknown word).isSwitch = false := by
  unfold ofUnknown
  split
  · rfl
  · rfl

theorem isSwitch_ofLetters_iff :
    (ofLetters word).isSwitch = true ↔ ∃ switch : Switch, switch.short <+: word := by
  unfold ofLetters
  split
  · rename_i c rest
    split
    · rename_i found lettered
      obtain rfl := Switch.letter_of_ofLetter? lettered
      exact ⟨fun _ => ⟨found, rest, rfl⟩, fun _ => isSwitch_attached found false rest⟩
    · rename_i unlettered
      rw [isSwitch_ofUnknown]
      refine ⟨fun no => absurd no Bool.false_ne_true, ?_⟩
      rintro ⟨switch, more, same⟩
      obtain rfl : switch.letter = c := (List.cons.inj (List.cons.inj same).2).1
      rw [Switch.ofLetter?_letter] at unlettered
      contradiction
  · rename_i other
    refine ⟨fun no => absurd no Bool.false_ne_true, ?_⟩
    rintro ⟨switch, more, rfl⟩
    exact absurd rfl (other switch.letter more)

theorem isSwitch_ofText_iff : (ofText word).isSwitch = true ↔ Switch.Spelled word := by
  unfold ofText
  split
  · rename_i undashed
    refine ⟨fun no => absurd no Bool.false_ne_true, fun spelled => ?_⟩
    rw [Switch.startsWith_of_spelled spelled] at undashed
    contradiction
  split
  · rename_i found spells
    refine ⟨fun _ => ?_, fun _ => rfl⟩
    rcases Switch.spelled?_eq_some spells with rfl | rfl
    · exact ⟨found, .inl (List.prefix_refl _)⟩
    · exact ⟨found, .inr (.inl rfl)⟩
  rename_i unspelled
  have other : ∀ switch : Switch, word ≠ switch.long := by
    rintro switch rfl
    have spells := Switch.spelled?_isSome_iff.mpr ⟨switch, .inr rfl⟩
    simp [unspelled] at spells
  dsimp only
  split
  · rename_i c argument found behind spells
    refine ⟨fun _ => ?_, fun _ => isSwitch_attached _ _ _⟩
    have whole := @List.takeWhile_append_dropWhile _ (· ≠ '=') word
    have equals : c = '=' := by
      have stops := List.head?_dropWhile_not (· ≠ '=') word
      rw [behind] at stops
      simpa using stops
    rw [behind, equals] at whole
    rcases Switch.spelled?_eq_some spells with short | long
    · rw [short] at whole
      exact ⟨found, .inl ⟨_, whole⟩⟩
    · rw [long] at whole
      exact ⟨found, .inr (.inr ⟨argument, by rwa [List.append_assoc]⟩)⟩
  · rename_i unattached
    rw [isSwitch_ofLetters_iff]
    constructor
    · rintro ⟨switch, short⟩
      exact ⟨switch, .inl short⟩
    · rintro ⟨switch, short | long | ⟨argument, rfl⟩⟩
      · exact ⟨switch, short⟩
      · exact absurd long (other switch)
      · rw [List.append_assoc, List.singleton_append] at unattached
        obtain ⟨before, behind⟩ := Switch.cut_of_long switch argument
        have spells := Switch.spelled?_isSome_iff.mpr ⟨switch, .inr rfl⟩
        obtain ⟨found, spells⟩ := Option.isSome_iff_exists.mp spells
        refine absurd ?_ (unattached '=' argument found behind)
        rw [before]
        exact spells

theorem path_or_unknown (plain : ¬Switch.Spelled word) :
    ofText word = .path ∨ ofText word = .unknown := by
  rw [← isSwitch_ofText_iff] at plain
  cases kind : ofText word with
  | path => exact .inl rfl
  | unknown => exact .inr rfl
  | switch found => exact absurd (kind ▸ rfl) plain
  | refused found argument => exact absurd (kind ▸ rfl) plain

end Argument

/-! ## Sorting the arguments -/

namespace TrashRequest

/-- The arguments before the first bare double dash. -/
def front (arguments : List Text) : List Text :=
  arguments.takeWhile (· ≠ terminator)

theorem terminator_not_mem_front (arguments : List Text) : terminator ∉ front arguments := by
  intro mem
  simpa using List.mem_takeWhile_imp mem

/-- A bare double dash ends the arguments before it, if there is one. -/
theorem eq_front_or (arguments : List Text) :
    arguments = front arguments ∨ ∃ back, arguments = front arguments ++ terminator :: back := by
  have whole : front arguments ++ arguments.dropWhile (· ≠ terminator) = arguments :=
    List.takeWhile_append_dropWhile
  cases behind : arguments.dropWhile (· ≠ terminator) with
  | nil =>
      rw [behind, List.append_nil] at whole
      exact .inl whole.symm
  | cons word back =>
      have stops := List.head?_dropWhile_not (· ≠ terminator) arguments
      rw [behind] at stops whole
      obtain rfl : word = terminator := by simpa using stops
      exact .inr ⟨back, whole.symm⟩

/-- No unknown option stands behind a path. -/
def OptionsFirst (words : List Text) : Prop :=
  words.Pairwise fun earlier later =>
    Argument.ofText earlier = .path → Argument.ofText later ≠ .unknown

instance (words : List Text) : Decidable (OptionsFirst words) :=
  inferInstanceAs (Decidable (List.Pairwise _ words))

theorem optionsFirst_concat_path {words : List Text} (path : Argument.ofText word = .path) :
    OptionsFirst (words ++ [word]) ↔ OptionsFirst words := by
  simp [OptionsFirst, List.pairwise_append, path]

theorem optionsFirst_concat_unknown {words : List Text}
    (unknown : Argument.ofText word = .unknown) :
    OptionsFirst (words ++ [word]) ↔ ∀ earlier ∈ words, Argument.ofText earlier ≠ .path := by
  simp only [OptionsFirst, List.pairwise_append]
  constructor
  · rintro ⟨-, -, behind⟩ earlier mem path
    exact behind earlier mem word (List.mem_singleton_self _) path unknown
  · intro none
    refine ⟨List.pairwise_of_forall_mem_list fun earlier mem _ _ path => ?_,
      List.pairwise_singleton _ _, fun earlier mem _ _ path => ?_⟩
    · exact absurd path (none earlier mem)
    · exact absurd path (none earlier mem)

namespace Sorted

variable {sorted : Sorted} {read : List Text}

/-- Sort one more word. -/
def add (sorted : Sorted) (word : Text) : Sorted :=
  if Argument.ofText word = .unknown then sorted.addUnknown word else sorted.addPath word

theorem run_endRun (sorted : Sorted) : sorted.endRun.run = [] := by
  obtain ⟨chosen, run, others⟩ := sorted
  cases run with
  | nil => rfl
  | cons first rest =>
      cases chosen with
      | none => rfl
      | some chosen => rfl

theorem chosen_endRun_eq_none_iff :
    sorted.endRun.chosen = none ↔ sorted.chosen = none ∧ sorted.run = [] := by
  obtain ⟨chosen, run, others⟩ := sorted
  cases run with
  | nil => simp [endRun]
  | cons first rest =>
      cases chosen with
      | none => simp [endRun]
      | some chosen => simp [endRun]

/-- In the end all words are there, but for a bare double dash in a first run. -/
theorem perm_paths (sorted : Sorted) :
    sorted.paths.Perm (sorted.others ++ sorted.chosen.getD [] ++
      if sorted.chosen = none then sorted.run.erase terminator else sorted.run) := by
  obtain ⟨chosen, run, others⟩ := sorted
  unfold paths endRun
  cases run with
  | nil => simp
  | cons first rest =>
      cases chosen with
      | none => simp
      | some chosen =>
          simp only [List.isEmpty_cons, Bool.false_eq_true, if_false, Option.getD_some,
            reduceCtorEq]
          rw [List.append_assoc, List.append_assoc]
          exact List.perm_append_comm.append_left others

/-- What is known of arguments that were sorted: all are there; nothing is settled yet exactly where
no path was read; and a run is complete exactly where an unknown option stands behind a path. -/
structure Holds (sorted : Sorted) (read : List Text) : Prop where
  all : (sorted.others ++ sorted.chosen.getD [] ++ sorted.run).Perm read
  fresh : sorted.chosen = none ∧ sorted.run = [] ↔
    ∀ word ∈ read, Argument.ofText word ≠ .path
  open_run : sorted.chosen = none ↔ OptionsFirst read

theorem holds_start : Holds ⟨none, [], []⟩ [] where
  all := .refl _
  fresh := by simp
  open_run := by simp [OptionsFirst]

theorem Holds.addPath (holds : sorted.Holds read) (path : Argument.ofText word = .path) :
    (sorted.addPath word).Holds (read ++ [word]) where
  all := by
    rw [Sorted.addPath, ← List.append_assoc]
    exact holds.all.append_right [word]
  fresh := by
    simp [Sorted.addPath, path]
  open_run := holds.open_run.trans (optionsFirst_concat_path path).symm

theorem Holds.perm_paths (holds : sorted.Holds read) (unmarked : terminator ∉ read) :
    sorted.paths.Perm read := by
  have unmarked : terminator ∉ sorted.run := fun mem =>
    unmarked (holds.all.subset (List.mem_append_right _ mem))
  have all := sorted.perm_paths
  rw [List.erase_of_not_mem unmarked, ite_self] at all
  exact all.trans holds.all

theorem Holds.addUnknown (holds : sorted.Holds read) (unmarked : terminator ∉ read)
    (unknown : Argument.ofText word = .unknown) :
    (sorted.addUnknown word).Holds (read ++ [word]) where
  all := by
    have all : (sorted.endRun.others ++ sorted.endRun.chosen.getD []).Perm read :=
      holds.perm_paths unmarked
    simp only [Sorted.addUnknown, run_endRun, List.append_nil, List.append_assoc]
    refine List.Perm.trans ?_ (all.append_right [word])
    rw [List.append_assoc]
    exact List.perm_append_comm.append_left _
  fresh := by
    simp only [Sorted.addUnknown, run_endRun, chosen_endRun_eq_none_iff, and_true, holds.fresh]
    constructor
    · intro none other mem
      rcases List.mem_append.mp mem with old | new
      · exact none other old
      · rw [List.mem_singleton.mp new, unknown]
        exact fun same => by contradiction
    · exact fun none other mem => none other (List.mem_append_left _ mem)
  open_run := by
    rw [optionsFirst_concat_unknown unknown, ← holds.fresh]
    exact chosen_endRun_eq_none_iff

theorem Holds.add (holds : sorted.Holds read) (unmarked : terminator ∉ read)
    (plain : ¬Switch.Spelled word) : (sorted.add word).Holds (read ++ [word]) := by
  unfold Sorted.add
  rcases Argument.path_or_unknown plain with path | unknown
  · rw [if_neg (by simp [path])]
    exact holds.addPath path
  · rw [if_pos unknown]
    exact holds.addUnknown unmarked unknown

/-- Words before any bare double dash, none of which spells a switch, are sorted one by one. -/
theorem holds_foldl (words : List Text) (unmarked : terminator ∉ words)
    (plain : ∀ word ∈ words, ¬Switch.Spelled word) :
    (words.foldl add ⟨none, [], []⟩).Holds words := by
  induction words using List.reverseRecOn with
  | nil => exact holds_start
  | append_singleton words word ih =>
      rw [List.foldl_append]
      have earlier : terminator ∉ words := fun mem => unmarked (List.mem_append_left _ mem)
      apply (ih earlier fun word mem => plain word (List.mem_append_left _ mem)).add earlier
      exact plain word (List.mem_append_right _ (List.mem_singleton_self word))

end Sorted

/-- Sorting goes on behind words that spell no switch. -/
theorem sort_append {words : List Text} (unmarked : terminator ∉ words)
    (plain : ∀ word ∈ words, ¬Switch.Spelled word) (sorted : Sorted) (rest : List Text) :
    sort sorted (words ++ rest) = sort (words.foldl Sorted.add sorted) rest := by
  induction words generalizing sorted with
  | nil => rfl
  | cons word words ih =>
      obtain ⟨other, unmarked⟩ := not_or.mp (mt List.mem_cons.mpr unmarked)
      have later := ih unmarked fun word mem => plain word (List.mem_cons_of_mem _ mem)
      rw [List.cons_append, sort, if_neg (Ne.symm other), List.foldl_cons, Sorted.add]
      rcases Argument.path_or_unknown (plain word List.mem_cons_self) with path | unknown
      · simp only [path, reduceCtorEq, if_false]
        exact later _
      · simp only [unknown, if_true]
        exact later _

/-- Where no argument before a bare double dash spells a switch, all of them are paths, but for the
first bare double dash; and that one is a path too where an unknown option stands behind a path
before it. -/
theorem ofArguments_of_plain {arguments : List Text}
    (plain : ∀ word ∈ front arguments, ¬Switch.Spelled word) :
    ∃ targets, ofArguments arguments = .paths targets ∧
      targets.Perm
        (if OptionsFirst (front arguments) then arguments.erase terminator else arguments) := by
  have unmarked := terminator_not_mem_front arguments
  have cut := eq_front_or arguments
  generalize front arguments = words at plain unmarked cut ⊢
  have sorts := sort_append unmarked plain ⟨none, [], []⟩
  have holds := Sorted.holds_foldl words unmarked plain
  generalize words.foldl Sorted.add ⟨none, [], []⟩ = sorted at holds sorts
  rcases cut with rfl | ⟨back, rfl⟩
  · refine ⟨sorted.paths, ?_, ?_⟩
    · rw [ofArguments, ← List.append_nil arguments, sorts, sort]
    · rw [List.erase_of_not_mem unmarked, ite_self]
      exact holds.perm_paths unmarked
  · refine ⟨Sorted.paths { sorted with run := sorted.run ++ terminator :: back }, ?_, ?_⟩
    · rw [ofArguments, sorts, sort, if_pos rfl]
    · have fresh : terminator ∉ sorted.run := fun mem =>
        unmarked (holds.all.subset (List.mem_append_right _ mem))
      refine (Sorted.perm_paths _).trans ?_
      simp only [holds.open_run, List.erase_append_right _ fresh, List.erase_cons_head,
        List.erase_append_right _ unmarked]
      split
      · rw [← List.append_assoc]
        exact holds.all.append_right back
      · rw [← List.append_assoc]
        exact holds.all.append_right (terminator :: back)

end TrashRequest

end SafeDelete
