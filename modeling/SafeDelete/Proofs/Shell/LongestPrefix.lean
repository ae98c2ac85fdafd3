/-
Module: SafeDelete.Proofs.Shell.LongestPrefix
Purpose: What is split off in front of a program is the longest run of words of its kind, and on one
  line it is read back as these words.
Main exports: Shell.Prefix.IsFront, Shell.Prefix.StandsBefore.isPrefix_split,
  Shell.Prefix.unwords_parts, Shell.Prefix.split_takes_longest
-/
import SafeDelete.Proofs.Shell.Line
import SafeDelete.Proofs.Shell.Prefix

namespace SafeDelete.Shell.Prefix

/-!
### The longest prefix
-/

/-- The words of the prefix stand at the front of a list of words, before what follows there. -/
def IsFront (p : Prefix) (words : List Text) : Prop :=
  ∃ after, p.words ++ after = words ∧ p.StandsBefore after

theorem isFront_split (words : List Text) : (Prefix.split words).1.IsFront words :=
  ⟨(Prefix.split words).2, words_append_of_split rfl, standsBefore_split words⟩

theorem AreOptionsBefore.isPrefix_split {after options : List Text}
    (are : AreOptionsBefore after options) :
    options <+: (splitSudoOptions (options ++ after)).1 := by
  rcases are with are | ⟨rfl, front, option, rfl, are, takes⟩
  · rw [splitSudoOptions_append_of_areSudoOptions are]
    exact List.prefix_append options _
  · have dashed := dashed_of_mem_sudoOptionsWithArgument option takes
    have unfinished : splitSudoOptions [option] = ([option], []) := by
      rw [splitSudoOptions, if_pos dashed]
    have whole : (splitSudoOptions (front ++ [option] ++ [])).1 = front ++ [option] := by
      rw [List.append_nil, splitSudoOptions_append_of_areSudoOptions are, unfinished]
    exact whole.symm ▸ List.prefix_rfl

/-- Both parts of a prefix that can stand in front are parts of what is split off there. -/
theorem StandsBefore.isPrefix_split {p : Prefix} {after : List Text}
    (stands : p.StandsBefore after) :
    p.assignments <+: (Prefix.split (p.words ++ after)).1.assignments ∧
      p.elevation <+: (Prefix.split (p.words ++ after)).1.elevation := by
  have assign : ∀ word ∈ p.assignments, isAssignment word = true := fun word mem =>
    isAssignment_iff.mpr (stands.assignments word mem)
  rw [Prefix.split, Prefix.words, List.append_assoc, List.takeWhile_append_of_pos assign,
    List.dropWhile_append_of_pos assign]
  refine ⟨List.prefix_append p.assignments _, ?_⟩
  rcases stands.elevation with none | ⟨options, eq, are⟩
  · rw [none]
    exact List.nil_prefix
  · have notAssignment : ¬isAssignment "sudo" = true := by decide
    rw [eq, List.cons_append, List.dropWhile_cons_of_neg notAssignment, splitSudo, if_pos rfl]
    exact List.cons_prefix_cons.mpr ⟨rfl, are.isPrefix_split⟩

/-- What can stand in front is what is split off there, or it is shorter. -/
theorem IsFront.eq_or_length_lt {p : Prefix} {words : List Text} (front : p.IsFront words) :
    p = (Prefix.split words).1 ∨ p.length < (Prefix.split words).1.length := by
  obtain ⟨after, rfl, stands⟩ := front
  obtain ⟨assignments, elevation⟩ := stands.isPrefix_split
  have fewer := assignments.length_le
  have fewerToo := elevation.length_le
  rw [Prefix.length, Prefix.length]
  by_cases shorter : p.assignments.length + p.elevation.length <
      (Prefix.split (p.words ++ after)).1.assignments.length +
        (Prefix.split (p.words ++ after)).1.elevation.length
  · exact Or.inr shorter
  · left
    rw [Prefix.mk.injEq p.assignments]
    exact ⟨assignments.eq_of_length (by omega), elevation.eq_of_length (by omega)⟩

/-!
### The prefix on one line
-/

variable {p : Prefix}

/-- The assignments and the elevation on one line are the words of the prefix on one line; a part
without words is left out. -/
theorem unwords_parts (nonempty : ∀ word ∈ p.words, word ≠ []) (rest : List Text) :
    Text.unwords ([p.environment, p.privilege].filter (!·.isEmpty) ++ rest) =
      Text.unwords (p.words ++ rest) := by
  have each : ∀ line ∈ [p.assignments, p.elevation], ∀ word ∈ line, word ≠ [] := by
    intro line memLines word memLine
    refine nonempty word ?_
    rw [words, List.mem_append]
    rcases List.mem_pair.mp memLines with rfl | rfl
    · exact Or.inl memLine
    · exact Or.inr memLine
  have lines := unwords_lines each rest
  rwa [List.flatten_cons, List.flatten_singleton] at lines

theorem isWord_of_split {text : Text} {after : List Text}
    (split : Prefix.split (Shell.words text) = (p, after)) : ∀ word ∈ p.words, IsWord word := by
  intro word mem
  refine isWord_of_mem_words text word ?_
  rw [← words_append_of_split split]
  exact List.mem_append_left after mem

/-- The prefix of a line, put on one line of its own, is read back token by token. -/
theorem tokenize_unwords_parts {text : Text} {after : List Text}
    (split : Prefix.split (Shell.words text) = (p, after)) :
    tokenize (Text.unwords ([p.environment, p.privilege].filter (!·.isEmpty))) =
      (tokenize text).take p.length := by
  have isWord := isWord_of_split split
  have whole := words_append_of_split split
  have closed : ClosedButLast p.words :=
    (whole ▸ closedButLast_words text : ClosedButLast (p.words ++ after)).sublist
      (List.sublist_append_left _ _)
  have line := unwords_parts (fun word mem => (isWord word mem).nonempty) []
  rw [List.append_nil, List.append_nil] at line
  rw [line, tokenize, tokenize, words_unwords closed, flatMap_words isWord, ← whole,
    ← List.map_take, ← length_words, List.take_left]

/-- What is split off in front of a list of tokens is the one longest run of assignments and of sudo
with its options; each part is written with single spaces, and where the tokens are those of a
line, both parts on one line are read back as the tokens that were split off. -/
theorem split_takes_longest (tokens : List Token) :
    let words := tokens.map Token.text
    let found := (Prefix.split words).1
    found.IsFront words ∧
      (∀ p : Prefix, p.IsFront words → p = found ∨ p.length < found.length) ∧
      found.environment = Text.unwords found.assignments ∧
      found.privilege = Text.unwords found.elevation ∧
      ∀ text, tokens = tokenize text →
        tokenize (Text.unwords ([found.environment, found.privilege].filter (!·.isEmpty))) =
          tokens.take found.length := by
  intro words found
  refine ⟨isFront_split words, fun p front => front.eq_or_length_lt, rfl, rfl, ?_⟩
  rintro text rfl
  have read : words = Shell.words text := map_text_tokenize text
  exact tokenize_unwords_parts (by rw [← read])

/-- The argument of an option may look like another one, and the last option may be without its. -/
theorem split_takes_longest_unfinished :
    let text : Text := "A=1  sudo -u '-g' -n -g"
    let found := (Prefix.split ((tokenize text).map Token.text)).1
    found = ⟨["A=1"], ["sudo", "-u", "'-g'", "-n", "-g"]⟩ ∧
      found.IsFront ((tokenize text).map Token.text) ∧
      tokenize (Text.unwords [found.environment, found.privilege]) = tokenize text := by
  intro text found
  obtain ⟨front, -, -, -, read⟩ := split_takes_longest (tokenize text)
  refine ⟨by decide, front, ?_⟩
  have length : (tokenize text).take found.length = tokenize text :=
    List.take_of_length_le (by decide)
  exact (read text rfl).trans length

end SafeDelete.Shell.Prefix
