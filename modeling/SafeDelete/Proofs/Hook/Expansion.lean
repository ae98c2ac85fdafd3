/-
Module: SafeDelete.Proofs.Hook.Expansion
Purpose: What a shell expands in the notice before a rewritten command.
Main exports: mem_of_mem_rewriteToTrash, Shell.Escapes, Shell.escapes_iff_of_run,
  Shell.IsInertText, Shell.LeavesNothingToExpand, Shell.IsDoubleQuoted, Json.IsBody.run_split,
  isDoubleQuoted_renderString, leavesNothingToExpand_renderString_iff,
  notice_expands_with_command
-/
import Mathlib.Algebra.Group.Nat.Even
import Mathlib.Data.List.DropRight
import SafeDelete.Proofs.Hook.Notice

namespace SafeDelete

open Shell

/-!
### The characters of a rewritten line
-/

namespace Shell

theorem subset_of_mem_words {text : Text} : ∀ word ∈ words text, word ⊆ text := by
  induction text using word_induction with
  | unbroken text whole =>
      intro word mem
      obtain ⟨rfl, _⟩ := mem_words_of_unbroken whole mem
      exact List.Subset.refl word
  | separated front c back whole closed separator ih =>
      intro word mem
      rw [words_append_separator closed separator, List.mem_append] at mem
      rcases mem with inFront | inBack
      · obtain ⟨rfl, _⟩ := mem_words_of_unbroken whole inFront
        exact List.subset_append_left word (c :: back)
      · have later := List.subset_cons_of_subset c (ih word inBack)
        exact List.subset_append_of_subset_right front later

theorem subset_of_mem_pieces {text : Text} : ∀ piece ∈ pieces text, piece.2 ⊆ text := by
  induction text using piece_induction with
  | uncut text whole =>
      intro piece mem
      rw [pieces_of_uncut whole, List.mem_singleton] at mem
      exact mem ▸ List.Subset.refl text
  | cut front operator back whole closed split ih =>
      have behind : back ⊆ front ++ (operator.text ++ back) :=
        List.subset_append_of_subset_right front (List.subset_append_right operator.text back)
      intro piece mem
      rw [pieces_of_splitPieces split, List.mem_cons, List.mem_cons] at mem
      rcases mem with rfl | rfl | mem
      · exact List.subset_append_left front (operator.text ++ back)
      · exact List.Subset.trans (ih (none, (splitPieces .plain back).1) List.mem_cons_self) behind
      · exact List.Subset.trans (ih piece (List.mem_cons_of_mem _ mem)) behind

theorem raw_subset_of_mem_segments {command : Text} {segment : Segment}
    (mem : segment ∈ segments command) : segment.raw ⊆ command := by
  rw [segments_eq_ofPieces] at mem
  obtain ⟨operator, piece, memVisible, rfl⟩ := Segment.mem_ofPieces mem
  have inPieces := (mem_visiblePieces.mp memVisible).1
  have trimmed : piece.2.trim ⊆ piece.2 := by
    conv_rhs => rw [← Text.trim_decomposition piece.2]
    exact List.subset_append_of_subset_right _ (List.subset_append_left _ _)
  exact List.Subset.trans trimmed (subset_of_mem_pieces piece inPieces)

end Shell

/-- The characters that stand between the parts of a rewritten line. -/
def joints : List Char := [' ', '&', '|', ';']

theorem lead_subset_joints (segment : Segment) : segment.lead ⊆ joints := by
  rw [Segment.lead]
  split
  · rename_i operator _
    cases operator
    all_goals simp [Operator.between, Operator.text, joints]
  · simp [joints]

theorem mem_of_mem_rewrittenPart {segment : Segment} (wellformed : segment.Wellformed)
    {trash : Text} {c : Char} (mem : c ∈ rewrittenPart trash segment) :
    c ∈ segment.raw ++ trash ∨ c ∈ joints := by
  cases found : Deletion.inSegment? segment with
  | none =>
      rw [Deletion.rewrittenPart_of_none found] at mem
      exact Or.inl (List.mem_append_left trash mem)
  | some deletion =>
      rw [Deletion.rewrittenPart_eq wellformed found] at mem
      rcases mem_of_mem_unwords mem with rfl | ⟨part, memParts, inPart⟩
      · exact Or.inr (by decide)
      · rw [Deletion.replacedWords, List.mem_append, List.mem_cons] at memParts
        refine Or.inl (List.mem_append.mpr ?_)
        rcases memParts with before | rfl | behind
        · exact Or.inl (subset_of_mem_words part (List.mem_of_mem_take before) inPart)
        · exact Or.inr inPart
        · have inWords := List.mem_of_mem_drop (Deletion.mem_of_mem_keptBehind behind)
          exact Or.inl (subset_of_mem_words part inWords inPart)

theorem mem_of_mem_rewriteSegments {line : List Segment} {trash : Text} {c : Char}
    (mem : c ∈ rewriteSegments trash line) :
    c ∈ joints ∨ ∃ segment ∈ line, c ∈ rewrittenPart trash segment := by
  cases line with
  | nil => contradiction
  | cons first later =>
      rw [rewriteSegments, List.mem_append, List.mem_flatMap] at mem
      rcases mem with inFirst | ⟨segment, memLater, inSegment⟩
      · exact Or.inr ⟨first, List.mem_cons_self, inFirst⟩
      · rcases List.mem_append.mp inSegment with inLead | inPart
        · exact Or.inl (lead_subset_joints segment inLead)
        · exact Or.inr ⟨segment, List.mem_cons_of_mem first memLater, inPart⟩

/-- A rewritten line has no characters but those of the command, of the trash command, and of what
joins its parts. -/
theorem mem_of_mem_rewriteToTrash {command trash : Text} {c : Char}
    (mem : c ∈ rewriteToTrash command trash) : c ∈ command ++ trash ∨ c ∈ joints := by
  by_cases none : Deletion.inCommand command = []
  · rw [rewriteToTrash_of_inCommand_eq_nil none] at mem
    exact Or.inl (List.mem_append_left trash mem)
  · rw [rewriteToTrash_of_inCommand_ne_nil none] at mem
    rcases mem_of_mem_rewriteSegments mem with joint | ⟨segment, memLine, inPart⟩
    · exact Or.inr joint
    · refine (mem_of_mem_rewrittenPart (wellformed_of_mem_segments memLine) inPart).imp_left ?_
      rw [List.mem_append, List.mem_append]
      exact Or.imp_left fun inRaw => raw_subset_of_mem_segments memLine inRaw

/-!
### Escapes and expansions
-/

namespace Shell

/-- Behind this text a character is escaped: an odd run of backslashes ends it. -/
def Escapes (before : Text) : Prop :=
  Odd (before.rtakeWhile (· == '\\')).length

/-- The characters that a shell expands between double quotes: those of its variables and
substitutions. -/
def isExpansion (c : Char) : Bool :=
  c == '$' || c == '`'

/-- A text without such characters. -/
def IsInertText (text : Text) : Prop :=
  ∀ c ∈ text, isExpansion c = false

instance (text : Text) : Decidable (IsInertText text) :=
  List.decidableBAll _ text

theorem isInertText_append {front back : Text} :
    IsInertText (front ++ back) ↔ IsInertText front ∧ IsInertText back :=
  List.forall_mem_append

/-- No character that a shell expands stands in the word without a backslash that escapes it. -/
def LeavesNothingToExpand (word : Text) : Prop :=
  ∀ before c after, word = before ++ c :: after → isExpansion c = true → Escapes before

/-- The word begins and ends with a double quote, and these are the only ones in it that are not
escaped. -/
structure IsDoubleQuoted (word : Text) : Prop where
  enclosed : ∃ inner, word = '"' :: (inner ++ ['"'])
  marks : ∀ before after, word = before ++ '"' :: after →
    (¬Escapes before ↔ before = [] ∨ after = [])

theorem escapes_append_singleton (front : Text) (c : Char) :
    Escapes (front ++ [c]) ↔ c = '\\' ∧ ¬Escapes front := by
  rw [Escapes, List.rtakeWhile_concat]
  by_cases backslash : c = '\\'
  · simp [backslash, Escapes, Nat.odd_add_one]
  · simp [backslash]

theorem not_escapes_nil : ¬Escapes [] := by
  simp [Escapes]

theorem step_eq_doubleEscaped {mode : ScanMode} {c : Char} (into : mode.step c = .doubleEscaped) :
    mode = .double ∧ c = '\\' := by
  cases mode with
  | plain =>
      rw [ScanMode.step] at into
      split at into
      · contradiction
      · split at into
        all_goals contradiction
  | single =>
      rw [ScanMode.step] at into
      split at into
      all_goals contradiction
  | double =>
      refine ⟨rfl, by_contra fun other => ?_⟩
      rw [ScanMode.step, if_neg other] at into
      split at into
      all_goals contradiction
  | escaped => contradiction
  | doubleEscaped => contradiction

theorem eq_doubleEscaped_of_step {mode : ScanMode} (into : mode.step '\\' = .double) :
    mode = .doubleEscaped := by
  cases mode with
  | doubleEscaped => rfl
  | plain | single | double | escaped => exact absurd into (by decide)

/-- Between double quotes a character is escaped exactly where the scanner takes it for so. -/
theorem escapes_iff_of_run {text : Text}
    (inside : ScanMode.plain.run text = .double ∨ ScanMode.plain.run text = .doubleEscaped) :
    Escapes text ↔ ScanMode.plain.run text = .doubleEscaped := by
  -- A run of backslashes is counted from its end, so the induction is from there.
  induction text using List.reverseRecOn with
  | nil => simp [ScanMode.run] at inside
  | append_singleton front c ih =>
      have step : ScanMode.plain.run (front ++ [c]) = (ScanMode.plain.run front).step c := by
        rw [ScanMode.run_append]
        rfl
      rw [step] at inside ⊢
      rw [escapes_append_singleton]
      rcases inside with double | escaped
      · rw [double, iff_false_right (by decide)]
        rintro ⟨rfl, notEscaped⟩
        have before := eq_doubleEscaped_of_step double
        exact notEscaped ((ih (Or.inr before)).mpr before)
      · obtain ⟨before, rfl⟩ := step_eq_doubleEscaped escaped
        rw [ih (Or.inl before), before]
        decide

/-- The mark that opens the quotes does not matter for what is escaped behind it. -/
theorem escapes_mark_cons_iff {front : Text}
    (inside : ScanMode.double.run front = .double ∨ ScanMode.double.run front = .doubleEscaped) :
    Escapes ('"' :: front) ↔ ScanMode.double.run front = .doubleEscaped :=
  @escapes_iff_of_run ('"' :: front) inside

end Shell

/-!
### A string as it is expanded
-/

/-- Where a written string is cut at a character, either the scanner is between double quotes there
and the character is no mark, or it is behind a backslash and the character is a letter of an
escape. -/
theorem Json.IsBody.run_split {body : Text} (isBody : Json.IsBody body) {front : Text} {c : Char}
    {back : Text} (split : body = front ++ c :: back) :
    ScanMode.double.run front = .double ∧ c ≠ '"' ∨
      ScanMode.double.run front = .doubleEscaped ∧ c ∈ Json.escapeLetters := by
  induction isBody generalizing front with
  | nil => simp at split
  | @plain d rest notQuote notEscape _ ih =>
      cases front with
      | nil =>
          obtain rfl := (List.cons.inj split).1
          exact Or.inl ⟨rfl, notQuote⟩
      | cons e front =>
          obtain ⟨rfl, later⟩ := List.cons.inj split
          have here : ScanMode.double.step d = .double :=
            (reads_double_plain notQuote notEscape).run
          rw [ScanMode.run_cons, here]
          exact ih later
  | @escape letter rest known _ ih =>
      -- The cut is before the backslash, between it and its letter, or behind both.
      match front with
      | [] =>
          obtain rfl := (List.cons.inj split).1
          exact Or.inl ⟨rfl, by decide⟩
      | [e] =>
          obtain ⟨rfl, later⟩ := List.cons.inj split
          obtain rfl := (List.cons.inj later).1
          exact Or.inr ⟨rfl, known⟩
      | e :: f :: front =>
          obtain ⟨rfl, behind⟩ := List.cons.inj split
          obtain ⟨rfl, later⟩ := List.cons.inj behind
          exact @ih front later

/-- Where a written string is cut at a character, that is one of the marks around it, or one between
them that the backslash of an escape stands before, or one that is no mark and is not escaped. -/
theorem split_renderString {text before after : Text} {c : Char}
    (split : Json.renderString text = before ++ c :: after) :
    c = '"' ∧ (before = [] ∨ after = []) ∧ ¬Escapes before ∨
      c ∈ Json.escapeLetters ∧ (before ≠ [] ∧ after ≠ []) ∧ Escapes before ∨
      c ≠ '"' ∧ ¬Escapes before := by
  have isBody := Json.isBody_flatMap_renderChar text
  cases before with
  | nil => exact Or.inl ⟨(List.cons.inj split).1.symm, Or.inl rfl, not_escapes_nil⟩
  | cons d front =>
      have inside : text.flatMap Json.renderChar ++ ['"'] = front ++ c :: after :=
        (List.cons.inj split).2
      obtain rfl := (List.cons.inj split).1
      rcases List.eq_nil_or_concat' after with rfl | ⟨back, last, rfl⟩
      · -- The scanner has passed all of the text, and is still between the marks.
        obtain ⟨rfl, same⟩ := List.append_inj' inside rfl
        obtain ⟨meant, reads⟩ := isBody.exists_reads
        have escapes := escapes_mark_cons_iff (Or.inl reads.run)
        exact Or.inl ⟨(List.cons.inj same).1.symm, Or.inr rfl, by simp [escapes, reads.run]⟩
      · have split : text.flatMap Json.renderChar = front ++ c :: back := by
          rw [← List.cons_append, ← List.append_assoc] at inside
          exact (List.append_inj' inside rfl).1
        rcases isBody.run_split split with ⟨run, notMark⟩ | ⟨run, letter⟩
        · have escapes := escapes_mark_cons_iff (Or.inl run)
          exact Or.inr (Or.inr ⟨notMark, by simp [escapes, run]⟩)
        · have escapes := escapes_mark_cons_iff (Or.inr run)
          exact Or.inr (Or.inl ⟨letter, ⟨List.cons_ne_nil _ _, by simp⟩, escapes.mpr run⟩)

/-- A written string is a word between double quotes. -/
theorem isDoubleQuoted_renderString (text : Text) : IsDoubleQuoted (Json.renderString text) where
  enclosed := ⟨_, rfl⟩
  marks before after split := by
    rcases split_renderString split with
      ⟨-, outer, notEscaped⟩ | ⟨-, inner, escaped⟩ | ⟨other, -⟩
    · exact iff_of_true notEscaped outer
    · exact iff_of_false (not_not.mpr escaped) (not_or.mpr inner)
    · exact absurd rfl other

/-- No character that a shell expands is ever escaped in it. -/
theorem not_escapes_of_isExpansion {text before after : Text} {c : Char}
    (split : Json.renderString text = before ++ c :: after) (expands : isExpansion c = true) :
    ¬Escapes before := by
  have noLetter : IsInertText Json.escapeLetters := by decide
  rcases split_renderString split with ⟨-, -, notEscaped⟩ | ⟨letter, -⟩ | ⟨-, notEscaped⟩
  · exact notEscaped
  · exact absurd expands (by simp [noLetter c letter])
  · exact notEscaped

theorem renderChar_of_isExpansion {c : Char} (expands : isExpansion c = true) :
    Json.renderChar c = [c] := by
  rw [isExpansion, Bool.or_eq_true, beq_iff_eq, beq_iff_eq] at expands
  rcases expands with rfl | rfl
  all_goals rfl

theorem isInertText_unicodeEscape (unit : Nat) : IsInertText (Json.unicodeEscape unit) := by
  have inertDigit : ∀ n < 16, isExpansion (hexDigit n) = false := by decide
  refine isInertText_append.mpr ⟨by decide, fun c mem => ?_⟩
  obtain ⟨digit, few, rfl⟩ := mem_hexadecimal mem
  exact inertDigit digit few

/-- A character is written with none that a shell expands, unless it is written as itself. -/
theorem isInertText_renderChar {c : Char} (other : Json.renderChar c ≠ [c]) :
    IsInertText (Json.renderChar c) := by
  by_cases short : c ∈ Json.shortened
  · have inert : IsInertText (Json.shortened.flatMap Json.renderChar) := by decide
    exact fun d mem => inert d (List.mem_flatMap.mpr ⟨c, short, mem⟩)
  rw [Json.renderChar_of_not_mem short] at other ⊢
  split
  · rename_i printed
    exact absurd (if_pos printed) other
  · split
    · exact isInertText_unicodeEscape _
    · exact isInertText_append.mpr ⟨isInertText_unicodeEscape _, isInertText_unicodeEscape _⟩

/-- What a shell expands in a written string stands in its text. -/
theorem mem_renderString_iff {text : Text} {c : Char} (expands : isExpansion c = true) :
    c ∈ Json.renderString text ↔ c ∈ text := by
  have notMark : c ≠ '"' := by
    rintro rfl
    exact absurd expands (by decide)
  simp only [Json.renderString, List.mem_append, List.mem_cons, List.mem_flatMap, notMark,
    List.not_mem_nil, false_or, or_false]
  constructor
  · rintro ⟨source, inText, written⟩
    by_cases itself : Json.renderChar source = [source]
    · rw [itself, List.mem_singleton] at written
      exact written ▸ inText
    · exact absurd expands (by simp [isInertText_renderChar itself c written])
  · intro inText
    exact ⟨c, inText, by simp [renderChar_of_isExpansion expands]⟩

/-- A shell finds nothing to expand in a written string where there is nothing in its text. -/
theorem leavesNothingToExpand_renderString_iff {text : Text} :
    LeavesNothingToExpand (Json.renderString text) ↔ IsInertText text := by
  constructor
  · intro nothing c inText
    by_contra expands
    rw [Bool.not_eq_false] at expands
    obtain ⟨before, after, split⟩ := List.append_of_mem ((mem_renderString_iff expands).mpr inText)
    exact not_escapes_of_isExpansion split expands (nothing before c after split expands)
  · intro nothing before c after split expands
    have inWord : c ∈ Json.renderString text := by simp [split]
    exact absurd expands (by simp [nothing c ((mem_renderString_iff expands).mp inWord)])

/-!
### The notice
-/

/-- A notice has what a shell expands from the command and the trash command. -/
theorem isInertText_rewriteNotice_iff {command trash : Text} :
    IsInertText (rewriteNotice command (rewriteToTrash command trash) trash) ↔
      IsInertText (command ++ trash) := by
  unfold rewriteNotice
  simp only [isInertText_append]
  constructor
  · rintro ⟨⟨⟨⟨⟨⟨-, inertCommand⟩, -⟩, -⟩, -⟩, inertTrash⟩, -⟩
    exact ⟨inertCommand, inertTrash⟩
  · rintro ⟨inertCommand, inertTrash⟩
    have inertRewritten : IsInertText (rewriteToTrash command trash) := by
      have inertJoints : IsInertText joints := by decide
      intro c mem
      rcases mem_of_mem_rewriteToTrash mem with given | joint
      · exact isInertText_append.mpr ⟨inertCommand, inertTrash⟩ c given
      · exact inertJoints c joint
    exact ⟨⟨⟨⟨⟨⟨by decide, inertCommand⟩, by decide⟩, inertRewritten⟩, by decide⟩, inertTrash⟩,
      by decide⟩

/-- Where a command is replaced, its notice is a word between double quotes, but none of the
characters that a shell expands there is escaped in it.  So the shell expands nothing in it exactly
where neither the command nor the trash command has such a character, quoted or not. -/
theorem notice_expands_with_command {input output settings after : Json} {command line : Text}
    (ran : beforeExecution input output settings = .ok after)
    (given : commandIn? output = some command) (found : commandIn? after = some line)
    (differs : line ≠ command) :
    ∃ trash, setting "trashCommand" settings = .ok (.str trash) ∧
      let rewritten := rewriteToTrash command trash
      let word := Json.renderString (rewriteNotice command rewritten trash)
      line = "echo " ++ word ++ " && " ++ rewritten ∧
        IsDoubleQuoted word ∧
        (∀ before c later, word = before ++ c :: later → isExpansion c = true →
          ¬Escapes before) ∧
        (LeavesNothingToExpand word ↔ IsInertText (command ++ trash)) := by
  obtain ⟨fields, arguments, trash, -, replaces, rfl⟩ :=
    exists_replacesCommand ran given found differs
  refine ⟨trash, replaces.trashNamed, rfl, isDoubleQuoted_renderString _, ?_, ?_⟩
  · intro before c later split expands
    exact not_escapes_of_isExpansion split expands
  · rw [leavesNothingToExpand_renderString_iff, isInertText_rewriteNotice_iff]

theorem notice_expands_with_command_quoted :
    let command : Text := "rm -r \"a \\\"b\" 'c\\'"
    let rewritten : Text := "gio trash \"a \\\"b\" 'c\\'"
    let word := Json.renderString (rewriteNotice command rewritten "gio trash")
    beforeExecution shellTool (shellArguments command) emptyConfig.toJson =
        .ok (shellArguments ("echo " ++ word ++ " && " ++ rewritten)) ∧
      IsDoubleQuoted word ∧ LeavesNothingToExpand word := by
  intro command rewritten word
  have same : rewriteToTrash command emptyConfig.trashCommand = rewritten := by decide +kernel
  have ran : beforeExecution shellTool (shellArguments command) emptyConfig.toJson =
      .ok (shellArguments ("echo " ++ word ++ " && " ++ rewritten)) :=
    beforeExecution_shell_of_rewrite rfl (List.cons_ne_nil _ _) (by decide +kernel) same
      (by decide +kernel)
  obtain ⟨trash, named, -, quoted, -, expands⟩ := notice_expands_with_command ran
    (commandIn?_shellArguments (List.cons_ne_nil _ _))
    (commandIn?_shellArguments (List.cons_ne_nil _ _)) (by decide +kernel)
  obtain rfl : ("gio trash" : Text) = trash := Json.str.inj (Except.ok.inj named)
  rw [show rewriteToTrash command "gio trash" = rewritten from same] at quoted expands
  exact ⟨ran, quoted, expands.mpr (by decide +kernel)⟩

/-- A substitution that is quoted in the command is run by the echo. -/
theorem notice_runs_quoted_substitution :
    let command : Text := "rm -r '$(id)'"
    let word : Text := "\"[trash-guard] Rewrote 'rm -r '$(id)'' to 'gio trash '$(id)''. " ++
      "Please use 'gio trash <path>' instead of 'rm -rf' for safe deletion.\""
    tokenize command = [⟨"rm", none⟩, ⟨"-r", none⟩, ⟨"'$(id)'", some .single⟩] ∧
      beforeExecution shellTool (shellArguments command) emptyConfig.toJson =
        .ok (shellArguments ("echo " ++ word ++ " && gio trash '$(id)'")) ∧
      ¬LeavesNothingToExpand word := by
  intro command word
  refine ⟨by decide, ?_, ?_⟩
  · have same : rewriteToTrash command emptyConfig.trashCommand = "gio trash '$(id)'" := by
      decide +kernel
    have line : withNotice command "gio trash '$(id)'" emptyConfig.trashCommand =
        "echo " ++ word ++ " && gio trash '$(id)'" := by
      decide +kernel
    rw [← line]
    exact beforeExecution_shell_of_rewrite rfl (List.cons_ne_nil _ _) (by decide +kernel) same
      (by decide +kernel)
  · intro nothing
    have split : word = ("\"[trash-guard] Rewrote 'rm -r '" : Text) ++ '$' :: word.drop 32 := by
      decide +kernel
    have escaped := nothing _ '$' _ split (by decide)
    unfold Escapes at escaped
    exact absurd escaped (by decide +kernel)

end SafeDelete
