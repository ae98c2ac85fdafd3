/-
Module: SafeDelete.Proofs.Deletion.Flag
Purpose: Which words are flags of the delete command, what a flag asks for, and which words of a
  command line are dropped as flags.
Main exports: IsShortFlag, IsSpelledFlag, isShortCluster_iff, isDeleteFlag_iff, Asks,
  Shell.IsWord.isDeleteFlag_iff, Operands.targets_ofWords, flags_are_spelled_out
-/
import SafeDelete.Deletion.Match
import SafeDelete.Proofs.Shell.Words

namespace SafeDelete

open Shell

/-!
### Flags as they are spelled

The reader of short flags lets one line feed pass behind the letters.  A flag as it is spelled has
none, so that the two differ in the words that end with a bare line feed and in no others.
-/

/-- A short flag: a dash, then one or more of the letters, and nothing else. -/
def IsShortFlag (word : Text) : Prop :=
  word.head? = some '-' ∧ word.tail ≠ [] ∧ ∀ c ∈ word.tail, c ∈ shortFlagLetters

instance (word : Text) : Decidable (IsShortFlag word) :=
  have : Decidable (∀ c ∈ word.tail, c ∈ shortFlagLetters) := List.decidableBAll _ _
  inferInstanceAs (Decidable (_ ∧ _ ∧ _))

/-- A flag as it is spelled: one of the long ones, or a short one. -/
def IsSpelledFlag (word : Text) : Prop :=
  word ∈ longFlags ∨ IsShortFlag word

instance (word : Text) : Decidable (IsSpelledFlag word) :=
  inferInstanceAs (Decidable (_ ∨ _))

theorem isShortFlag_cons {letters : Text} :
    IsShortFlag ('-' :: letters) ↔ letters ≠ [] ∧ ∀ c ∈ letters, c ∈ shortFlagLetters :=
  and_iff_right rfl

theorem IsShortFlag.exists_letters {word : Text} (short : IsShortFlag word) :
    ∃ letters, word = '-' :: letters ∧ letters ≠ [] ∧ ∀ c ∈ letters, c ∈ shortFlagLetters := by
  obtain ⟨dash, nonempty, letters⟩ := short
  exact ⟨word.tail, (List.eq_cons_of_mem_head? dash), nonempty, letters⟩

theorem isShortCluster_cons {c : Char} {rest : Text} (more : rest ≠ []) (noFeed : rest ≠ ['\n']) :
    isShortCluster (c :: rest) = (shortFlagLetters.contains c && isShortCluster rest) := by
  rw [isShortCluster]
  · exact more
  · exact noFeed

theorem isShortCluster_iff {cluster : Text} :
    isShortCluster cluster = true ↔
      ∃ letters, letters ≠ [] ∧ (∀ c ∈ letters, c ∈ shortFlagLetters) ∧
        (cluster = letters ∨ cluster = letters ++ ['\n']) := by
  constructor
  · intro short
    fun_induction isShortCluster cluster with
    | case1 => contradiction
    | case2 c => exact ⟨[c], by simp, by simpa using short, Or.inl rfl⟩
    | case3 c => exact ⟨[c], by simp, by simpa using short, Or.inr rfl⟩
    | case4 c rest _ _ ih =>
        rw [Bool.and_eq_true, List.contains_iff_mem] at short
        obtain ⟨letters, -, all, eq⟩ := ih short.2
        refine ⟨c :: letters, by simp, List.forall_mem_cons.mpr ⟨short.1, all⟩, ?_⟩
        exact eq.imp (congrArg (c :: ·)) (congrArg (c :: ·))
  · rintro ⟨letters, nonempty, all, eq⟩
    induction letters generalizing cluster with
    | nil => exact absurd rfl nonempty
    | cons c rest ih =>
        obtain ⟨here, later⟩ := List.forall_mem_cons.mp all
        rw [← List.contains_iff_mem] at here
        cases rest with
        | nil => rcases eq with rfl | rfl <;> exact here
        | cons d rest =>
            have feed : d ≠ '\n' := by
              rintro rfl
              exact absurd (later _ List.mem_cons_self) (by decide)
            have onward : ∀ tail, tail = d :: rest ∨ tail = d :: rest ++ ['\n'] →
                isShortCluster (c :: tail) = true := by
              intro tail eq
              have start : tail.head? = some d := by rcases eq with rfl | rfl <;> rfl
              rw [isShortCluster_cons, here, ih (by simp) later eq]
              · rfl
              · rintro rfl
                contradiction
              · rintro rfl
                exact feed (Option.some.inj start).symm
            rcases eq with rfl | rfl
            · exact onward _ (Or.inl rfl)
            · exact onward _ (Or.inr rfl)

/-- A word is read as a flag if it is spelled like one, or is a short one with a line feed behind. -/
theorem isDeleteFlag_iff {word : Text} :
    isDeleteFlag word = true ↔
      IsSpelledFlag word ∨ ∃ flag, IsShortFlag flag ∧ word = flag ++ ['\n'] := by
  unfold isDeleteFlag
  rw [Bool.or_eq_true, List.contains_iff_mem]
  constructor
  · rintro (long | short)
    · exact Or.inl (Or.inl long)
    · split at short
      · obtain ⟨letters, nonempty, all, rfl | rfl⟩ := isShortCluster_iff.mp short
        · exact Or.inl (Or.inr (isShortFlag_cons.mpr ⟨nonempty, all⟩))
        · exact Or.inr ⟨'-' :: letters, isShortFlag_cons.mpr ⟨nonempty, all⟩, rfl⟩
      · contradiction
  · rintro ((long | short) | ⟨flag, short, rfl⟩)
    · exact Or.inl long
    · obtain ⟨letters, rfl, nonempty, all⟩ := short.exists_letters
      exact Or.inr (isShortCluster_iff.mpr ⟨letters, nonempty, all, Or.inl rfl⟩)
    · obtain ⟨letters, rfl, nonempty, all⟩ := short.exists_letters
      exact Or.inr (isShortCluster_iff.mpr ⟨letters, nonempty, all, Or.inr rfl⟩)

/-!
### Effects of an option
-/

/-- An option asks for an effect: it is the long option for it, or it has a single dash and one of
the letters. -/
def Asks (long letters word : Text) : Prop :=
  word = long ∨ Text.startsWith "--" word = false ∧ ∃ c ∈ letters, c ∈ word

/-- Dropping the dash of an option drops none of its letters. -/
theorem mem_drop_one_of_isOptionLike {word : Text} (option : isOptionLike word = true) {c : Char}
    (notDash : c ≠ '-') : c ∈ word.drop 1 ↔ c ∈ word := by
  cases word with
  | nil => simp [isOptionLike, Text.startsWith] at option
  | cons first rest =>
      obtain ⟨rfl, -⟩ : '-' = first ∧ _ := by simpa [isOptionLike, Text.startsWith] using option
      simp [notDash]

theorem asks_iff {word long letters : Text} (option : isOptionLike word = true)
    (isLong : Text.startsWith "--" long = true) (noDash : '-' ∉ letters) :
    Asks long letters word ↔
      if Text.startsWith "--" word = true then word = long else ∃ c ∈ letters, c ∈ word.drop 1 := by
  have letter : ∀ c ∈ letters, (c ∈ word.drop 1 ↔ c ∈ word) := fun c mem =>
    mem_drop_one_of_isOptionLike option fun dash => noDash (dash ▸ mem)
  split
  · rename_i dashed
    exact or_iff_left fun single => Bool.eq_false_iff.mp single.1 dashed
  · rename_i single
    have notLong : word ≠ long := by
      rintro rfl
      exact single isLong
    rw [Asks, or_iff_right notLong, and_iff_right (Bool.eq_false_iff.mpr single)]
    exact exists_congr fun c => and_congr_right fun mem => (letter c mem).symm

theorem recursive_flagEffects_iff {word : Text} (option : isOptionLike word = true) :
    (flagEffects word).recursive = true ↔ Asks "--recursive" "rR" word := by
  rw [asks_iff option (by decide) (by decide), flagEffects, if_pos option]
  split <;> simp

theorem force_flagEffects_iff {word : Text} (option : isOptionLike word = true) :
    (flagEffects word).force = true ↔ Asks "--force" "f" word := by
  rw [asks_iff option (by decide) (by decide), flagEffects, if_pos option]
  split <;> simp

/-!
### What is in a flag, and what it asks for
-/

/-- No character of the word quotes, escapes or separates. -/
def IsPlainWord (word : Text) : Prop :=
  ∀ c ∈ word, IsBare c ∧ isSeparator c = false

instance (word : Text) : Decidable (IsPlainWord word) :=
  List.decidableBAll _ word

theorem IsSpelledFlag.plain {word : Text} (spelled : IsSpelledFlag word) : IsPlainWord word := by
  rcases spelled with long | short
  · have all : ∀ word ∈ longFlags, IsPlainWord word := by decide
    exact all word long
  · obtain ⟨letters, rfl, -, all⟩ := short.exists_letters
    have each : IsPlainWord ('-' :: shortFlagLetters) := by decide
    intro c mem
    rcases List.mem_cons.mp mem with dash | letter
    · exact each c (List.mem_cons.mpr (Or.inl dash))
    · exact each c (List.mem_cons_of_mem _ (all c letter))

theorem IsSpelledFlag.isOptionLike {word : Text} (spelled : IsSpelledFlag word) :
    isOptionLike word = true := by
  rcases spelled with long | short
  · have all : ∀ word ∈ longFlags, SafeDelete.isOptionLike word = true := by decide
    exact all word long
  · obtain ⟨letters, rfl, nonempty, -⟩ := short.exists_letters
    simp [SafeDelete.isOptionLike, Text.startsWith, nonempty]

theorem isBare_of_isDeleteFlag {word : Text} (flag : isDeleteFlag word = true) :
    ∀ c ∈ word, IsBare c := by
  rcases isDeleteFlag_iff.mp flag with spelled | ⟨flag, short, rfl⟩
  · exact fun c mem => (spelled.plain c mem).1
  · intro c mem
    rcases List.mem_append.mp mem with inFlag | feed
    · exact (IsSpelledFlag.plain (Or.inr short) c inFlag).1
    · rw [List.mem_singleton.mp feed]
      exact isBare_of_isBlank rfl

/-- A flag of the delete command has no quote and no backslash. -/
theorem closed_of_isDeleteFlag {word : Text} (flag : isDeleteFlag word = true) : Closed word :=
  closed_of_bare (isBare_of_isDeleteFlag flag)

theorem isOptionLike_of_isDeleteFlag {word : Text} (flag : isDeleteFlag word = true) :
    isOptionLike word = true := by
  rcases isDeleteFlag_iff.mp flag with spelled | ⟨flag, short, rfl⟩
  · exact spelled.isOptionLike
  · obtain ⟨letters, rfl, nonempty, -⟩ := short.exists_letters
    simp [isOptionLike, Text.startsWith]

/-- Of the flags as they are spelled, the short ones have a single dash. -/
theorem IsSpelledFlag.single_iff {word : Text} (spelled : IsSpelledFlag word) :
    Text.startsWith "--" word = false ↔ IsShortFlag word := by
  rcases spelled with long | short
  · have all : ∀ word ∈ longFlags, (Text.startsWith "--" word = false ↔ IsShortFlag word) := by
      decide
    exact all word long
  · refine iff_of_true ?_ short
    obtain ⟨letters, rfl, nonempty, all⟩ := short.exists_letters
    obtain ⟨c, rest, rfl⟩ := List.exists_cons_of_ne_nil nonempty
    have notDash : '-' ≠ c := by
      rintro rfl
      exact absurd (all _ List.mem_cons_self) (by decide)
    simp [Text.startsWith, List.isPrefixOf, notDash]

theorem IsSpelledFlag.recursive_iff {word : Text} (spelled : IsSpelledFlag word) :
    (flagEffects word).recursive = true ↔
      word = "--recursive" ∨ IsShortFlag word ∧ ('r' ∈ word ∨ 'R' ∈ word) := by
  rw [recursive_flagEffects_iff spelled.isOptionLike, Asks, spelled.single_iff]
  simp

theorem IsSpelledFlag.force_iff {word : Text} (spelled : IsSpelledFlag word) :
    (flagEffects word).force = true ↔ word = "--force" ∨ IsShortFlag word ∧ 'f' ∈ word := by
  rw [force_flagEffects_iff spelled.isOptionLike, Asks, spelled.single_iff]
  simp

/-!
### Flags in a command line
-/

/-- A line feed behind the letters would end the word, so that no word has one there. -/
theorem Shell.IsWord.isDeleteFlag_iff {word : Text} (isWord : IsWord word) :
    isDeleteFlag word = true ↔ IsSpelledFlag word := by
  rw [SafeDelete.isDeleteFlag_iff, or_iff_left]
  rintro ⟨flag, short, rfl⟩
  have closed : Closed flag :=
    closed_of_bare fun c mem => (IsSpelledFlag.plain (Or.inr short) c mem).1
  have unbroken := (unbroken_append.mp isWord.unbroken).2
  exact unbroken.1 ⟨closed, rfl⟩

/-- The operands behind a delete command: the words up to the terminator that are no flags, and all
words after it. -/
theorem Operands.targets_ofWords (words : List Text) :
    (ofWords words).targets =
      (words.takeWhile (· ≠ terminator)).filter (!isDeleteFlag ·) ++
        (words.dropWhile (· ≠ terminator)).drop 1 := by
  induction words with
  | nil => rfl
  | cons word rest ih =>
      by_cases last : word = terminator
      · simp [ofWords, last]
      · by_cases flag : isDeleteFlag word = true <;> simp [ofWords, last, flag, ih]

/-- Among words of a command line, those that are left out in front of the terminator are the flags
that are spelled like one. -/
theorem Operands.targets_ofWords_of_isWord {arguments : List Text}
    (isWord : ∀ word ∈ arguments, IsWord word) :
    (ofWords arguments).targets =
      (arguments.takeWhile (· ≠ terminator)).filter (¬IsSpelledFlag ·) ++
        (arguments.dropWhile (· ≠ terminator)).drop 1 := by
  rw [targets_ofWords]
  congr 1
  refine List.filter_congr fun word mem => ?_
  have same := (isWord word (List.takeWhile_subset _ mem)).isDeleteFlag_iff
  simp [← same]

/-- Where the flags right behind a delete command are dropped, these are flags as they are spelled. -/
theorem dropWhile_isDeleteFlag_of_isWord {arguments : List Text}
    (isWord : ∀ word ∈ arguments, IsWord word) :
    arguments.dropWhile isDeleteFlag = arguments.dropWhile (IsSpelledFlag ·) := by
  induction arguments with
  | nil => rfl
  | cons word rest ih =>
      have same := (isWord word List.mem_cons_self).isDeleteFlag_iff
      have later := ih fun other mem => isWord other (List.mem_cons_of_mem _ mem)
      rw [List.dropWhile_cons, List.dropWhile_cons, later]
      simp [same]

/-- A word of a command line is a flag only if it is spelled like one.  Then it looks like an option
and is not the terminator, it has no quote, backslash or line feed, and it asks for what the long
flag or the letters stand for; and no other word is dropped from behind a delete command. -/
theorem flags_are_spelled_out (command : Text) :
    (∀ token ∈ tokenize command,
      (isDeleteFlag token.text = true ↔ token.text ∈ longFlags ∨ IsShortFlag token.text) ∧
        (isDeleteFlag token.text = true →
          isOptionLike token.text = true ∧ token.text ≠ "--" ∧
            (∀ c ∈ token.text, c ≠ '\'' ∧ c ≠ '"' ∧ c ≠ '\\' ∧ c ≠ '\n') ∧
            ((flagEffects token.text).recursive = true ↔
              token.text = "--recursive" ∨
                IsShortFlag token.text ∧ ('r' ∈ token.text ∨ 'R' ∈ token.text)) ∧
            ((flagEffects token.text).force = true ↔
              token.text = "--force" ∨ IsShortFlag token.text ∧ 'f' ∈ token.text))) ∧
      ∀ arguments, arguments ⊆ words command →
        (Operands.ofWords arguments).targets =
            (arguments.takeWhile (· ≠ Operands.terminator)).filter (¬IsSpelledFlag ·) ++
              (arguments.dropWhile (· ≠ Operands.terminator)).drop 1 ∧
          arguments.dropWhile isDeleteFlag = arguments.dropWhile (IsSpelledFlag ·) := by
  refine ⟨fun token mem => ?_, fun arguments within => ?_⟩
  · have inWords : token.text ∈ words command :=
      map_text_tokenize command ▸ List.mem_map_of_mem mem
    have spelledOut := (isWord_of_mem_words command token.text inWords).isDeleteFlag_iff
    refine ⟨spelledOut, fun flag => ?_⟩
    have spelled := spelledOut.mp flag
    refine ⟨spelled.isOptionLike, ?_, ?_, spelled.recursive_iff, spelled.force_iff⟩
    · intro same
      rw [same] at flag
      exact absurd flag (by decide)
    · intro c inFlag
      obtain ⟨⟨notBackslash, notSingle, notDouble⟩, noSeparator⟩ := spelled.plain c inFlag
      refine ⟨notSingle, notDouble, notBackslash, ?_⟩
      rintro rfl
      exact absurd noSeparator (by decide)
  · have isWord := fun word mem => isWord_of_mem_words command word (within mem)
    exact ⟨Operands.targets_ofWords_of_isWord isWord, dropWhile_isDeleteFlag_of_isWord isWord⟩

theorem flags_are_spelled_out_feeds :
    let command : Text := "rm -Rf -r\\\n '-f\n' x -v\n"
    let flag : Token := ⟨"-Rf", none⟩
    let arguments := (words command).drop 1
    flag ∈ tokenize command ∧ isDeleteFlag flag.text = true ∧
      (flagEffects flag.text).recursive = true ∧ (flagEffects flag.text).force = true ∧
      arguments ⊆ words command ∧
      (Operands.ofWords arguments).targets = ["-r\\\n", "'-f\n'", "x"] := by
  intro command flag arguments
  have inLine : flag ∈ tokenize command := by decide
  have short : IsShortFlag flag.text := by decide
  have within : arguments ⊆ words command := List.drop_subset 1 _
  obtain ⟨each, matched⟩ := flags_are_spelled_out command
  have isFlag := (each flag inLine).1.mpr (Or.inr short)
  obtain ⟨-, -, -, recursive, force⟩ := (each flag inLine).2 isFlag
  refine ⟨inLine, isFlag, recursive.mpr (Or.inr ⟨short, by decide⟩),
    force.mpr (Or.inr ⟨short, by decide⟩), within, ?_⟩
  rw [(matched arguments within).1]
  decide

end SafeDelete
