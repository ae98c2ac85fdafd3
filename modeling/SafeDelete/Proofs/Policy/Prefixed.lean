/-
Module: SafeDelete.Proofs.Policy.Prefixed
Purpose: Assignments and sudo in front of a delete hide nothing: it is judged as it is without them,
  and it is found where they end.
Main exports: Shell.IsPrefixText, Shell.BeginsWithDelete, Shell.IsPrefixText.words_trim,
  Shell.exists_segments_of_first_pieces, Deletion.inCommand_prefixed, prefix_is_transparent
-/
import SafeDelete.Proofs.Deletion.Structure
import SafeDelete.Proofs.Policy.Risk

namespace SafeDelete

open Shell

namespace Shell

/-!
### A prefix and a delete
-/

/-- A text that is put in front of a program: the words of a complete prefix, with a single space
between two of them.  None of them is left open, and there is no operator outside quotes. -/
structure IsPrefixText (text : Text) (p : Prefix) : Prop where
  nonempty : text ≠ []
  complete : p.IsComplete
  words : words text = p.words
  spaced : text = Text.unwords p.words
  closed : ∀ word ∈ p.words, Closed word
  uncut : Uncut .plain text

/-- A command line that begins with the delete command as a word of its own. -/
def BeginsWithDelete (command : Text) : Prop :=
  ∃ rest, command = deleteCommand ++ rest ∧ ∀ c ∈ rest.head?, isSeparator c = true

variable {text command : Text} {p : Prefix}

namespace BeginsWithDelete

theorem visible (begins : BeginsWithDelete command) : Text.isBlank command = false := by
  obtain ⟨rest, rfl, -⟩ := begins
  rfl

theorem trim_eq (begins : BeginsWithDelete command) : command.trim = command.trimEnd := by
  obtain ⟨rest, rfl, -⟩ := begins
  rw [Text.trim, Text.trimStart_of_front]
  intro c head
  obtain rfl : 'r' = c := Option.some.inj head
  rfl

/-- Its first word is the delete command. -/
theorem words_trim (begins : BeginsWithDelete command) :
    ∃ arguments, Shell.words command.trim = deleteCommand :: arguments := by
  obtain ⟨rest, rfl, apart⟩ := begins
  have solid : Text.Solid deleteCommand := by
    constructor <;> rintro c ⟨⟩ <;> rfl
  exact words_trim_append solid (by decide) (by decide : ScanMode.plain.run deleteCommand = .plain)
    apart

/-- The delete command stands in the first piece. -/
theorem first_piece (begins : BeginsWithDelete command) :
    BeginsWithDelete (splitPieces .plain command).1 := by
  obtain ⟨rest, rfl, apart⟩ := begins
  have start : rest.head? ≠ some '&' := fun ampersand =>
    absurd (apart '&' ampersand) (by decide)
  rw [splitPieces_append_of_uncut (by decide) start]
  obtain ⟨later, whole⟩ := splitPieces_isPrefix .plain rest
  refine ⟨(splitPieces .plain rest).1, rfl, fun c head => apart c ?_⟩
  rw [← whole]
  exact List.mem_head?_append_of_mem_head? head

end BeginsWithDelete

namespace IsPrefixText

theorem closed_text (isPrefix : IsPrefixText text p) : Closed text :=
  isPrefix.spaced ▸ closed_unwords isPrefix.closed

theorem isBlank_head (isPrefix : IsPrefixText text p) :
    ∀ c ∈ text.head?, isBlank c = false := by
  have isWord := isWord_of_mem_words text
  have start := isPrefix.complete.isBlank_head
  rw [isPrefix.words] at isWord
  rw [isPrefix.spaced]
  cases eq : p.words with
  | nil => simp
  | cons first rest =>
      rw [eq] at isWord start
      rw [head?_unwords (isWord first List.mem_cons_self).nonempty]
      exact start first rfl

/-- Behind a prefix, a delete keeps the words that trimming leaves it by itself. -/
theorem words_trim (isPrefix : IsPrefixText text p) (begins : BeginsWithDelete command) :
    Shell.words (text ++ ' ' :: command).trim = p.words ++ Shell.words command.trim := by
  have visible : Text.isBlank (' ' :: command) = false := begins.visible
  have front : ∀ c ∈ (text ++ ' ' :: command).head?, isBlank c = false := by
    rw [List.head?_append_of_ne_nil _ isPrefix.nonempty]
    exact isPrefix.isBlank_head
  have trimmed : (text ++ ' ' :: command).trim = text ++ ' ' :: command.trim := by
    rw [Text.trim, Text.trimStart_of_front front, Text.trimEnd_append_of_visible text visible,
      begins.trim_eq]
    exact congrArg (text ++ ·) (Text.trimEnd_append_of_visible " " begins.visible)
  rw [trimmed, words_append_separator isPrefix.closed_text rfl, isPrefix.words]

/-- A prefix stands in the first piece, and the others are as they are without it. -/
theorem splitPieces_append (isPrefix : IsPrefixText text p) (command : Text) :
    splitPieces .plain (text ++ ' ' :: command) =
      (text ++ ' ' :: (splitPieces .plain command).1, (splitPieces .plain command).2) := by
  rw [splitPieces_append_of_uncut isPrefix.uncut (by simp), isPrefix.closed_text,
    splitPieces_space rfl]

end IsPrefixText

/-- Lines that differ in nothing but their first pieces, both not blank, differ in nothing but their
first segments. -/
theorem exists_segments_of_first_pieces {first second : Text}
    (same : (splitPieces .plain first).2 = (splitPieces .plain second).2)
    (visibleFirst : Text.isBlank (splitPieces .plain first).1 = false)
    (visibleSecond : Text.isBlank (splitPieces .plain second).1 = false) :
    ∃ later,
      segments first = Segment.ofText none (splitPieces .plain first).1 :: later ∧
        segments second = Segment.ofText none (splitPieces .plain second).1 :: later := by
  rw [segments_eq_ofPieces, segments_eq_ofPieces, visiblePieces, visiblePieces, pieces, pieces,
    List.filter_cons_of_pos (by simp [visibleFirst]),
    List.filter_cons_of_pos (by simp [visibleSecond]), same]
  exact ⟨_, rfl, rfl⟩

end Shell

/-!
### Finding the delete again
-/

namespace Deletion

variable {text command : Text} {p : Prefix}

theorem split_words_delete (complete : p.IsComplete) (arguments : List Text) :
    Prefix.split (p.words ++ deleteCommand :: arguments) = (p, deleteCommand :: arguments) :=
  complete.split_words_append ⟨by decide, by decide, by decide⟩ arguments

theorem split_delete (arguments : List Text) :
    Prefix.split (deleteCommand :: arguments) = (.empty, deleteCommand :: arguments) := by
  have complete : Prefix.empty.IsComplete := ⟨by simp [Prefix.empty], Or.inl rfl⟩
  exact split_words_delete complete arguments

/-- The words of a prefix in front of a delete move it on by their number. -/
theorem inWords?_prefixed (complete : p.IsComplete) (arguments : List Text) :
    inWords? (p.words ++ deleteCommand :: arguments) =
      (inWords? (deleteCommand :: arguments)).map fun deletion =>
        { deletion with index := deletion.index + p.length, before := p } := by
  rw [inWords?_of_direct (split_words_delete complete arguments),
    inWords?_of_direct (split_delete arguments)]
  split
  · rfl
  · simp [Prefix.empty, Prefix.length]

theorem inSegment?_prefixed (isPrefix : IsPrefixText text p) (begins : BeginsWithDelete command) :
    inSegment? (Segment.ofText none (text ++ ' ' :: command)) =
      (inSegment? (Segment.ofText none command)).map fun deletion =>
        { deletion with index := deletion.index + p.length, before := p } := by
  obtain ⟨arguments, eq⟩ := begins.words_trim
  rw [inSegment?, inSegment?, Segment.ofText, Segment.ofText, map_text_tokenize, map_text_tokenize,
    isPrefix.words_trim begins, eq, inWords?_prefixed isPrefix.complete]

theorem inCommand_prefixed (isPrefix : IsPrefixText text p) (begins : BeginsWithDelete command) :
    inCommand (text ++ ' ' :: command) =
      (inCommand command).map fun found =>
        if found.1 = 0 then
          (0, { found.2 with index := found.2.index + p.length, before := p })
        else found := by
  have split := isPrefix.splitPieces_append command
  have begun := begins.first_piece
  have visible : Text.isBlank (splitPieces .plain (text ++ ' ' :: command)).1 = false := by
    rw [split, Bool.eq_false_iff]
    intro blank
    rw [Text.isBlank_append] at blank
    exact Bool.eq_false_iff.mp begun.visible blank.2
  obtain ⟨later, whole, alone⟩ :=
    exists_segments_of_first_pieces (by rw [split]) visible begun.visible
  -- The segments behind the first one are counted from one on.
  have kept : ∀ found ∈ inSegmentsFrom 1 later, found.1 ≠ 0 := by
    rintro ⟨index, deletion⟩ mem
    obtain ⟨offset, _, rfl, -⟩ := mem_inSegmentsFrom.mp mem
    omega
  rw [inCommand, inCommand, whole, alone, split, inSegments, inSegments, inSegmentsFrom,
    inSegmentsFrom, List.map_append, inSegment?_prefixed isPrefix begun]
  congr 1
  · cases inSegment? (Segment.ofText none (splitPieces .plain command).1) <;> rfl
  · symm
    refine (List.map_congr_left fun found mem => if_neg (kept found mem)).trans ?_
    exact List.map_id' _

end Deletion

theorem judge_prefixed {text command : Text} {p : Prefix} (isPrefix : IsPrefixText text p)
    (begins : BeginsWithDelete command) (level : Level) :
    judge (text ++ ' ' :: command) level = judge command level := by
  obtain ⟨arguments, eq⟩ := begins.words_trim
  have alone : (Prefix.split (words command.trim)).2 = deleteCommand :: arguments := by
    rw [eq, Deletion.split_delete]
  have behind : (Prefix.split (words (text ++ ' ' :: command).trim)).2 =
      deleteCommand :: arguments := by
    rw [isPrefix.words_trim begins, eq, Deletion.split_words_delete isPrefix.complete]
  rw [judge, judge, Risk.ofCommand?_of_split alone, Risk.ofCommand?_of_split behind]

/-- In front of a delete, assignments and sudo change nothing about how the line is judged, and
nothing about its deletes, except that the first one stands behind so many more words, with the
assignments and the sudo as what is before it. -/
theorem prefix_is_transparent {text command : Text} {p : Prefix} (isPrefix : IsPrefixText text p)
    (begins : BeginsWithDelete command) :
    (∀ level, judge (text ++ " " ++ command) level = judge command level) ∧
      Deletion.inCommand (text ++ " " ++ command) =
        (Deletion.inCommand command).map fun found =>
          if found.1 = 0 then
            (0, { found.2 with index := found.2.index + (tokenize text).length, before := p })
          else found := by
  have line : text ++ " " ++ command = text ++ ' ' :: command := by simp
  have length : (tokenize text).length = p.length := by
    rw [tokenize, List.length_map, isPrefix.words, Prefix.length_words]
  rw [line, length]
  exact ⟨judge_prefixed isPrefix begins, Deletion.inCommand_prefixed isPrefix begins⟩

theorem prefix_is_transparent_elevated :
    let text : Text := "A='b && c' B= sudo -u rm -n"
    let p : Prefix := ⟨["A='b && c'", "B="], ["sudo", "-u", "rm", "-n"]⟩
    let command : Text := "rm -rf 'x y' && C=1 rm z"
    IsPrefixText text p ∧ BeginsWithDelete command ∧
      judge (text ++ " " ++ command) .normal = some .forcedRecursive ∧
      Deletion.inCommand (text ++ " " ++ command) =
        [(0, ⟨.direct, 6, p, ⟨["'x y'"], false⟩⟩),
          (1, ⟨.direct, 1, ⟨["C=1"], []⟩, ⟨["z"], false⟩⟩)] := by
  intro text p command
  have options : Prefix.AreSudoOptions ["-u", "rm", "-n"] :=
    .withArgument (by decide) (.alone (by decide) (by decide) .nil)
  have closed : ∀ word ∈ p.words, ScanMode.plain.run word = .plain := by decide
  have isPrefix : IsPrefixText text p := by
    refine ⟨by decide, ⟨by decide, Or.inr ⟨_, rfl, options⟩⟩, by decide, by decide, closed, ?_⟩
    decide
  have begins : BeginsWithDelete command := ⟨" -rf 'x y' && C=1 rm z", rfl, by simp [isSeparator]⟩
  obtain ⟨judged, found⟩ := prefix_is_transparent isPrefix begins
  refine ⟨isPrefix, begins, ?_, ?_⟩
  · rw [judged]
    decide
  · rw [found]
    decide

end SafeDelete
