/-
Module: SafeDelete.Proofs.Deletion.Replacement
Purpose: The words of a segment after its delete is replaced: those before the delete command, those
  of the trash command, and what is kept of the words behind.
Main exports: PlainCommand, Deletion.keptBehind, Deletion.replacedWords,
  Deletion.Anatomy.unwords_replacement, Deletion.Anatomy.words_replacedWords,
  Deletion.Anatomy.run_replacedWords, Deletion.tokenize_rewriteSegment
-/
import SafeDelete.Deletion.Rewrite
import SafeDelete.Host.Environment
import SafeDelete.Proofs.Deletion.Anatomy
import SafeDelete.Proofs.Deletion.Flag
import SafeDelete.Proofs.Shell.LongestPrefix
import SafeDelete.Proofs.Shell.Segments

namespace SafeDelete

open Shell

/-- A trash command of ordinary words: trimmed, not empty, and without a character that quotes,
escapes or separates commands. -/
structure PlainCommand (trash : Text) : Prop where
  nonempty : trash ≠ []
  trimmed : trash.trim = trash
  ordinary : ∀ c ∈ trash, c ≠ '\'' ∧ c ≠ '"' ∧ c ≠ '\\' ∧ c ≠ '&' ∧ c ≠ '|' ∧ c ≠ ';'

namespace PlainCommand

variable {trash : Text}

theorem closed (plain : PlainCommand trash) : Closed trash := by
  apply closed_of_bare
  intro c mem
  obtain ⟨notSingle, notDouble, notBackslash, _⟩ := plain.ordinary c mem
  exact ⟨notBackslash, notSingle, notDouble⟩

theorem uncut (plain : PlainCommand trash) : Uncut .plain trash :=
  uncut_of_forall_ne fun c mem => (plain.ordinary c mem).2.2.2

theorem solid (plain : PlainCommand trash) : Text.Solid trash :=
  plain.trimmed ▸ Text.solid_trim trash

/-- The trash commands of the platforms are plain. -/
theorem of_platform (platform : Platform) : PlainCommand platform.trashCommand := by
  rw [Platform.trashCommand]
  split
  · exact ⟨by decide, by decide, by simp⟩
  · exact ⟨by decide, by decide, by simp⟩

end PlainCommand

/-!
### The words behind the delete command
-/

theorem Operands.endOfOptions_ofWords (words : List Text) :
    (if (ofWords words).endOfOptions then [terminator] else []) =
      (words.dropWhile (· ≠ terminator)).take 1 := by
  induction words with
  | nil => rfl
  | cons word rest ih =>
      by_cases last : word = terminator
      · simp [ofWords, last]
      · by_cases flag : isDeleteFlag word = true <;> simpa [ofWords, last, flag] using ih

namespace Deletion

/-- What is kept of the words behind a replaced delete command.  A direct delete keeps its
terminator, which then comes first, and its operands; the other forms lose only the flags right
behind the command. -/
def keptBehind (form : Form) (words : List Text) : List Text :=
  match form with
  | .direct =>
    let options := words.takeWhile (· ≠ Operands.terminator)
    let later := words.dropWhile (· ≠ Operands.terminator)
    later.take 1 ++ (options.filter (!isDeleteFlag ·) ++ later.drop 1)
  | _ => words.dropWhile isDeleteFlag

theorem eq_terminator_of_mem_take {words : List Text} {word : Text}
    (mem : word ∈ (words.dropWhile (· ≠ Operands.terminator)).take 1) :
    word = Operands.terminator := by
  induction words with
  | nil => simp at mem
  | cons first rest ih =>
      by_cases last : first = Operands.terminator
      · simpa [last] using mem
      · exact ih (by simpa [last] using mem)

/-- Apart from the terminator, what is kept of a direct delete stands in its order. -/
theorem keptOperands_sublist (words : List Text) :
    ((words.takeWhile (· ≠ Operands.terminator)).filter (!isDeleteFlag ·) ++
      (words.dropWhile (· ≠ Operands.terminator)).drop 1).Sublist words := by
  conv_rhs => rw [← @List.takeWhile_append_dropWhile _ (· ≠ Operands.terminator) words]
  exact List.filter_sublist.append (List.drop_sublist 1 _)

theorem closed_terminator : Closed Operands.terminator :=
  show ScanMode.plain.run "--" = .plain by decide

theorem closedButLast_keptBehind {words : List Text} (closed : ClosedButLast words) (form : Form) :
    ClosedButLast (keptBehind form words) := by
  cases form with
  | direct =>
      refine closedButLast_append (fun word mem => ?_) (closed.sublist (keptOperands_sublist words))
      rw [eq_terminator_of_mem_take mem]
      exact closed_terminator
  | xargs => exact closed.sublist (List.dropWhile_sublist _)
  | findExec => exact closed.sublist (List.dropWhile_sublist _)

theorem mem_of_mem_keptBehind {words : List Text} {form : Form} {word : Text}
    (mem : word ∈ keptBehind form words) : word ∈ words := by
  cases form with
  | direct =>
      rcases List.mem_append.mp mem with first | later
      · exact (List.dropWhile_sublist _).subset ((List.take_sublist 1 _).subset first)
      · exact (keptOperands_sublist words).subset later
  | xargs => exact (List.dropWhile_sublist _).subset mem
  | findExec => exact (List.dropWhile_sublist _).subset mem

/-- Nothing but flags is left out. -/
theorem mem_keptBehind {words : List Text} {form : Form} {word : Text} (mem : word ∈ words)
    (notFlag : isDeleteFlag word = false) : word ∈ keptBehind form words := by
  have dropped : word ∈ words.dropWhile isDeleteFlag := by
    rw [← @List.takeWhile_append_dropWhile _ isDeleteFlag words, List.mem_append] at mem
    rcases mem with front | back
    · rw [List.mem_takeWhile_imp front] at notFlag
      contradiction
    · exact back
  cases form with
  | direct =>
      rw [← @List.takeWhile_append_dropWhile _ (· ≠ Operands.terminator) words,
        List.mem_append] at mem
      rw [keptBehind, List.mem_append, List.mem_append]
      rcases mem with option | later
      · exact Or.inr (Or.inl (List.mem_filter.mpr ⟨option, by simp [notFlag]⟩))
      · rw [← @List.take_append_drop _ 1 (words.dropWhile (· ≠ Operands.terminator)),
          List.mem_append] at later
        exact later.imp_right Or.inr
  | xargs => exact dropped
  | findExec => exact dropped

/-!
### The whole line
-/

/-- The words of a rewritten segment, the trash command taken for one of them. -/
def replacedWords (deletion : Deletion) (words : List Text) (trash : Text) : List Text :=
  words.take deletion.index ++
    trash :: keptBehind deletion.form (words.drop (deletion.index + 1))

variable {text trash : Text} {deletion : Deletion}

namespace Anatomy

/-- The parts behind the trash command are what is kept of the words behind the delete command. -/
theorem trailing_eq {words : List Text} (anatomy : Anatomy words deletion) :
    deletion.trailing words = keptBehind deletion.form (words.drop (deletion.index + 1)) := by
  cases anatomy with
  | @direct before arguments split targets =>
      have behind : words.drop (before.length + 1) = arguments := by
        rw [← Prefix.words_append_of_split split, List.append_cons, List.drop_left' (by simp)]
      simp only [trailing, keptBehind, behind, Operands.targets_ofWords]
      rw [Operands.endOfOptions_ofWords]
  | xargs split dashed => rfl
  | findExec split isAction first => rfl

/-- A rewritten segment is the line of its words up to the delete command, the trash command, and
what is kept of its words behind.  A direct delete is put together anew from its parts, and still
it is that line. -/
theorem unwords_replacement (anatomy : Anatomy (words text) deletion) (trash : Text) :
    Text.unwords (deletion.replacement (words text) trash) =
      Text.unwords (deletion.replacedWords (words text) trash) := by
  rw [replacement, replacedWords, anatomy.trailing_eq, List.append_assoc, List.singleton_append]
  cases anatomy with
  | @direct before arguments split targets =>
      have nonempty := fun word mem => (Prefix.isWord_of_split split word mem).nonempty
      rw [take_of_split split, leading, Prefix.unwords_parts nonempty]
  | xargs split dashed => rfl
  | findExec split isAction first => rfl

theorem closed_before (anatomy : Anatomy (words text) deletion) :
    ∀ word ∈ (words text).take deletion.index, Closed word := by
  have closed := closedButLast_words text
  rw [anatomy.words_eq] at closed
  exact closed_of_mem_front closed (by simp)

theorem closedButLast_replacedWords (anatomy : Anatomy (words text) deletion)
    (plain : PlainCommand trash) : ClosedButLast (deletion.replacedWords (words text) trash) := by
  apply closedButLast_append anatomy.closed_before
  refine closedButLast_cons.mpr ⟨fun _ => plain.closed, ?_⟩
  apply closedButLast_keptBehind
  exact (closedButLast_words text).sublist (List.drop_sublist _ _)

/-- A rewritten segment is read back as the words before the delete command, those of the trash
command, and what is kept of the words behind. -/
theorem words_replacedWords (anatomy : Anatomy (words text) deletion)
    (plain : PlainCommand trash) :
    words (Text.unwords (deletion.replacedWords (words text) trash)) =
      (words text).take deletion.index ++ words trash ++
        keptBehind deletion.form ((words text).drop (deletion.index + 1)) := by
  have isWord := isWord_of_mem_words text
  rw [words_unwords (anatomy.closedButLast_replacedWords plain), replacedWords,
    List.flatMap_append, List.flatMap_cons, List.append_assoc,
    flatMap_words fun word mem => isWord word (List.mem_of_mem_take mem),
    flatMap_words fun word mem => isWord word (List.mem_of_mem_drop (mem_of_mem_keptBehind mem))]

theorem uncut_replacedWords (anatomy : Anatomy (words text) deletion) (plain : PlainCommand trash)
    (uncut : Uncut .plain text) :
    Uncut .plain (Text.unwords (deletion.replacedWords (words text) trash)) := by
  refine uncut_unwords (fun part mem => ?_) (anatomy.closedButLast_replacedWords plain)
  rw [replacedWords, List.mem_append, List.mem_cons] at mem
  rcases mem with before | rfl | behind
  · exact uncut.of_mem_words part (List.mem_of_mem_take before)
  · exact plain.uncut
  · exact uncut.of_mem_words part (List.mem_of_mem_drop (mem_of_mem_keptBehind behind))

/-- A rewritten segment leaves the scanner as the segment does: whatever word is left open is no
flag, so that it is kept, and it stays the last one. -/
theorem run_replacedWords (anatomy : Anatomy (words text) deletion) (plain : PlainCommand trash) :
    ScanMode.plain.run (Text.unwords (deletion.replacedWords (words text) trash)) =
      ScanMode.plain.run text := by
  rw [run_unwords (anatomy.closedButLast_replacedWords plain), ← endMode_words text]
  refine endMode_congr (anatomy.closedButLast_replacedWords plain) (closedButLast_words text)
    fun part left => ?_
  rw [replacedWords, List.mem_append, List.mem_cons]
  constructor
  · rintro (before | rfl | behind)
    · exact List.mem_of_mem_take before
    · exact absurd plain.closed left
    · exact List.mem_of_mem_drop (mem_of_mem_keptBehind behind)
  · intro mem
    have notFlag : isDeleteFlag part = false :=
      Bool.eq_false_iff.mpr fun flag => left (closed_of_isDeleteFlag flag)
    rw [anatomy.words_eq, List.mem_append, List.mem_cons] at mem
    rcases mem with before | rfl | behind
    · exact Or.inl before
    · exact absurd (show ScanMode.plain.run deleteCommand = .plain by decide) left
    · exact Or.inr (Or.inr (mem_keptBehind behind notFlag))

end Anatomy

/-!
### Segments
-/

theorem anatomy_of_inSegment? {segment : Segment} (wellformed : segment.Wellformed)
    (found : inSegment? segment = some deletion) : Anatomy (words segment.raw) deletion := by
  rw [inSegment?, wellformed.tokens, map_text_tokenize] at found
  exact inWords?_eq_some_iff.mp found

theorem rewriteSegment_eq {segment : Segment} (wellformed : segment.Wellformed)
    (found : inSegment? segment = some deletion) (trash : Text) :
    deletion.rewriteSegment segment trash =
      Text.unwords (deletion.replacedWords (words segment.raw) trash) := by
  rw [rewriteSegment, wellformed.tokens, map_text_tokenize,
    (anatomy_of_inSegment? wellformed found).unwords_replacement]

theorem rewrittenPart_eq {segment : Segment} (wellformed : segment.Wellformed)
    (found : inSegment? segment = some deletion) (trash : Text) :
    rewrittenPart trash segment =
      Text.unwords (deletion.replacedWords (words segment.raw) trash) := by
  rw [rewrittenPart, found]
  exact rewriteSegment_eq wellformed found trash

theorem rewrittenPart_of_none {segment : Segment} (none : inSegment? segment = none)
    (trash : Text) : rewrittenPart trash segment = segment.raw := by
  rw [rewrittenPart, none]

/-- Only the delete command and its flags change: a rewritten segment is read as its own words up to
the delete command, those of the trash command, and what is kept of its words behind. -/
theorem tokenize_rewriteSegment {command : Text} {index : Nat}
    (found : (index, deletion) ∈ inCommand command) (plain : PlainCommand trash) :
    ∃ segment, (segments command)[index]? = some segment ∧
      (segment.tokens.map Token.text)[deletion.index]? = some deleteCommand ∧
      (tokenize (deletion.rewriteSegment segment trash)).map Token.text =
        (segment.tokens.map Token.text).take deletion.index ++ words trash ++
          keptBehind deletion.form ((segment.tokens.map Token.text).drop (deletion.index + 1)) := by
  obtain ⟨segment, stands, foundHere⟩ := mem_inSegments.mp found
  have wellformed : segment.Wellformed :=
    wellformed_of_mem_segments (List.mem_iff_getElem?.mpr ⟨index, stands⟩)
  have anatomy := anatomy_of_inSegment? wellformed foundHere
  refine ⟨segment, stands, ?_, ?_⟩
  · rw [wellformed.tokens, map_text_tokenize]
    exact anatomy.getElem?_index
  · rw [map_text_tokenize, rewriteSegment_eq wellformed foundHere, wellformed.tokens,
      map_text_tokenize]
    exact anatomy.words_replacedWords plain

theorem tokenize_rewriteSegment_elevated :
    let command : Text := "cd / && A='b c' sudo -u root rm -rf -x -- -f d\\ e"
    let deletion : Deletion :=
      ⟨.direct, 4, ⟨["A='b c'"], ["sudo", "-u", "root"]⟩, ⟨["-x", "-f", "d\\ e"], true⟩⟩
    (1, deletion) ∈ inCommand command ∧ PlainCommand "gio trash" ∧
      ∃ segment ∈ segments command,
        (tokenize (deletion.rewriteSegment segment "gio trash")).map Token.text =
          ["A='b c'", "sudo", "-u", "root", "gio", "trash", "--", "-x", "-f", "d\\ e"] := by
  intro command deletion
  have found : (1, deletion) ∈ inCommand command := by decide
  have plain : PlainCommand "gio trash" := PlainCommand.of_platform Platform.linux
  obtain ⟨segment, stands, _, read⟩ := tokenize_rewriteSegment found plain
  have mem : segment ∈ segments command := List.mem_iff_getElem?.mpr ⟨1, stands⟩
  refine ⟨found, plain, segment, mem, read.trans ?_⟩
  have elevated : (segments command)[1]? =
      some (.ofText (some .and) "A='b c' sudo -u root rm -rf -x -- -f d\\ e") := by decide
  rw [← Option.some.inj (elevated.symm.trans stands)]
  decide

end Deletion

end SafeDelete
