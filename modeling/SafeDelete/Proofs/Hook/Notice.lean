/-
Module: SafeDelete.Proofs.Hook.Notice
Purpose: The notice before a rewritten command is one quoted word, and the commands behind it are
  those of the rewritten command.
Main exports: Json.IsBody.exists_reads, exists_reads_renderString, Shell.segments_echo,
  isBlank_first_piece_rewriteToTrash, segments_withNotice, beforeExecution_shell_of_rewrite,
  notice_stands_before_line
-/
import SafeDelete.Proofs.Deletion.Joining
import SafeDelete.Proofs.Hook.Denial
import SafeDelete.Proofs.Hook.Replacing
import SafeDelete.Proofs.Json.RoundTrip
import SafeDelete.Proofs.Shell.Quoting

namespace SafeDelete

open Shell

/-!
### A string as a word

The two rule sets need not agree on what an escape means, only on how long it is: a written string
has one more character behind each backslash, and so has a text between double quotes.
-/

/-- The text of a written string stays between the double quotes around it. -/
theorem Json.IsBody.exists_reads {body : Text} (isBody : Json.IsBody body) :
    ∃ meant, Reads .double body meant none .double := by
  induction isBody with
  | nil => exact ⟨[], reads_nil .double⟩
  | @plain c rest notQuote notEscape _ ih =>
      obtain ⟨meant, later⟩ := ih
      exact ⟨c :: meant, (reads_double_plain notQuote notEscape).append later⟩
  | @escape letter rest _ _ ih =>
      obtain ⟨meant, later⟩ := ih
      exact ⟨letter :: meant, (reads_double_escaped letter).append later⟩

theorem exists_reads_renderString (text : Text) :
    ∃ meant, Reads .plain (Json.renderString text) meant (some .double) .plain := by
  obtain ⟨meant, reads⟩ := (Json.isBody_flatMap_renderChar text).exists_reads
  exact ⟨meant, reads.double_quoted⟩

namespace Shell

/-- A word that is echoed is one command of two words. -/
theorem segments_echo {word meant : Text} {quote : Option Quote}
    (reads : Reads .plain word meant quote .plain) (nonempty : word ≠ [])
    (visible : ∀ c ∈ word.getLast?, isBlank c = false) :
    segments ("echo " ++ word) =
      [⟨"echo " ++ word, [⟨"echo", none⟩, ⟨word, quote⟩], none⟩] := by
  have echo : Reads .plain "echo" "echo" none .plain := QuotedWord.reads [.bare "echo"]
  have line : "echo " ++ word = Text.unwords [("echo" : Text), word] := by
    simp [Text.unwords, Text.join]
  have first : Token.ofText "echo" = ⟨"echo", none⟩ := rfl
  have second : Token.ofText word = ⟨word, quote⟩ := by
    rw [Token.ofText, openingQuote, reads.opening]
  rw [line, segments_unwords, List.map_cons, List.map_singleton, first, second]
  · simpa using ⟨echo.isWord (by simp), reads.isWord nonempty⟩
  · apply closedButLast_of_closed
    simpa using ⟨echo.run, reads.run⟩
  · simpa using ⟨echo.quiet.uncut, reads.quiet.uncut⟩
  · apply solid_unwords
    · simpa using nonempty
    · simp
      decide
    · simpa using visible
  · simp

end Shell

/-!
### The line behind the notice
-/

/-- A rewritten line begins with a command: neither is its first part blank, nor does an operator
stand before it. -/
theorem isBlank_first_piece_rewriteToTrash {command trash : Text} (plain : PlainCommand trash)
    (found : Deletion.inCommand command ≠ []) :
    Text.isBlank (splitPieces .plain (rewriteToTrash command trash)).1 = false := by
  rw [rewriteToTrash_of_inCommand_ne_nil found]
  cases line : segments command with
  | nil => exact absurd line (Deletion.segments_ne_nil found)
  | cons first later =>
      have wellformed : first.Wellformed :=
        wellformed_of_mem_segments (line ▸ List.mem_cons_self)
      have start : (later.flatMap fun segment =>
          segment.lead ++ rewrittenPart trash segment).head? ≠ some '&' := by
        cases later with
        | nil => simp
        | cons next later =>
            rw [List.flatMap_cons, List.append_assoc, Segment.lead]
            cases next.operator with
            | none => simp
            | some operator => cases operator <;> simp [Operator.between]
      rw [rewriteSegments, splitPieces_append_of_uncut (wellformed.uncut_rewrittenPart plain) start,
        Bool.eq_false_iff]
      intro blank
      have blankFirst := (Text.isBlank_append.mp blank).1
      exact wellformed.trim_rewrittenPart_ne_nil plain (Text.trim_eq_nil_iff.mpr blankFirst)

/-- Behind a notice stand the commands of the rewritten line, the first of them behind the operator
that joins it to the echo. -/
theorem segments_withNotice {command trash : Text} (plain : PlainCommand trash)
    (found : Deletion.inCommand command ≠ []) :
    let rewritten := rewriteToTrash command trash
    let word := Json.renderString (rewriteNotice command rewritten trash)
    segments (withNotice command rewritten trash) =
      ⟨"echo " ++ word, [⟨"echo", none⟩, ⟨word, some .double⟩], none⟩ ::
        Segment.follow .and (segments rewritten) := by
  intro rewritten word
  obtain ⟨meant, reads⟩ := exists_reads_renderString (rewriteNotice command rewritten trash)
  have last : word.getLast? = some '"' := List.getLast?_concat
  have echo : segments ("echo " ++ word) =
      [⟨"echo " ++ word, [⟨"echo", none⟩, ⟨word, some .double⟩], none⟩] := by
    apply segments_echo reads
    · exact List.cons_ne_nil _ _
    · intro c mem
      obtain rfl := Option.some.inj (last.symm.trans mem)
      rfl
  have closed : Closed ("echo " ++ word) := by
    have opens : Closed "echo " := show ScanMode.plain.run "echo " = .plain by decide
    exact opens.append_iff.mpr reads.run
  have line : withNotice command rewritten trash = joined ("echo " ++ word) .and rewritten := by
    unfold withNotice
    simp [joined, Operator.text, word]
  obtain ⟨later, split, -, follow⟩ := segments_joined closed .and rewritten
  have nonempty : segments ("echo " ++ word) ≠ [] := by
    rw [echo]
    exact List.cons_ne_nil _ _
  rw [line, split, echo, follow nonempty (isBlank_first_piece_rewriteToTrash plain found)]
  rfl

/-!
### What the host runs
-/

/-- In rewrite mode the callback before a command runs replaces it where the policy stops it, unless
it is rewritten to itself. -/
theorem replacesCommand_shell {config : Config} {command : Text}
    (rewrites : config.mode = .rewrite) (given : command ≠ [])
    (stopped : (config.danger? command).isSome)
    (differs : rewriteToTrash command config.trashCommand ≠ command) :
    ReplacesCommand shellTool config.toJson [("args", .obj [("command", .str command)])]
      [("command", .str command)] command config.trashCommand where
  tool := ⟨_, rfl, rfl⟩
  inOutput := rfl
  inArguments := commandField?_singleton given
  stopped := by
    obtain ⟨danger, eq⟩ := Option.isSome_iff_exists.mp stopped
    exact ⟨danger, (dangerUnder_toJson config command).trans (congrArg _ eq)⟩
  trashNamed := rfl
  rewrites := ⟨_, setting_mode config, (Mode.ofJson_text config.mode).trans rewrites⟩
  differs := differs

theorem beforeExecution_shell_of_rewrite {config : Config} {command rewritten : Text}
    (rewrites : config.mode = .rewrite) (given : command ≠ [])
    (stopped : (config.danger? command).isSome)
    (same : rewriteToTrash command config.trashCommand = rewritten)
    (differs : rewritten ≠ command) :
    beforeExecution shellTool (shellArguments command) config.toJson =
      .ok (shellArguments (withNotice command rewritten config.trashCommand)) := by
  obtain rfl := same
  exact (replacesCommand_shell rewrites given stopped differs).beforeExecution_eq

theorem commandIn?_shellArguments {command : Text} (given : command ≠ []) :
    commandIn? (shellArguments command) = some command :=
  commandField?_singleton given

/-- Where a command is replaced, what the host runs is an echo of the notice and then the commands
of the rewritten line.  The notice is one word between double quotes, whatever the command has in
it, and read as JSON it is the notice again. -/
theorem notice_stands_before_line {input output settings after : Json} {command line trash : Text}
    (ran : beforeExecution input output settings = .ok after)
    (given : commandIn? output = some command) (found : commandIn? after = some line)
    (differs : line ≠ command) (named : setting "trashCommand" settings = .ok (.str trash))
    (plain : PlainCommand trash) :
    let rewritten := rewriteToTrash command trash
    let notice := rewriteNotice command rewritten trash
    let word := Json.renderString notice
    line = "echo " ++ word ++ " && " ++ rewritten ∧
      segments line =
        ⟨"echo " ++ word, [⟨"echo", none⟩, ⟨word, some .double⟩], none⟩ ::
          Segment.follow .and (segments rewritten) ∧
      Json.parse word = .ok (.str notice) := by
  intro rewritten notice word
  obtain ⟨fields, arguments, other, -, replaces, rfl⟩ :=
    exists_replacesCommand ran given found differs
  obtain rfl : other = trash := by
    rw [replaces.trashNamed] at named
    exact Json.str.inj (Except.ok.inj named)
  have deletes : Deletion.inCommand command ≠ [] := fun none =>
    replaces.differs (rewriteToTrash_of_inCommand_eq_nil none other)
  exact ⟨rfl, segments_withNotice plain deletes, Json.parse_renderString notice⟩

theorem notice_stands_before_line_mixed :
    let command : Text := "rm -rf \"a\\\"b\" 'c\n;d' && echo é \\| x; sudo rm -r `pwd`"
    let rewritten : Text := "gio trash \"a\\\"b\" 'c\n;d' && echo é \\| x; sudo gio trash `pwd`"
    let notice := rewriteNotice command rewritten "gio trash"
    let word := Json.renderString notice
    let line := "echo " ++ word ++ " && " ++ rewritten
    beforeExecution shellTool (shellArguments command) emptyConfig.toJson =
        .ok (shellArguments line) ∧
      segments line =
        [⟨"echo " ++ word, [⟨"echo", none⟩, ⟨word, some .double⟩], none⟩,
          Segment.ofText (some .and) "gio trash \"a\\\"b\" 'c\n;d'",
          Segment.ofText (some .and) "echo é \\| x",
          Segment.ofText (some .sequence) "sudo gio trash `pwd`"] ∧
      Json.parse word = .ok (.str notice) := by
  intro command rewritten notice word line
  have same : rewriteToTrash command emptyConfig.trashCommand = rewritten := by decide +kernel
  have ran : beforeExecution shellTool (shellArguments command) emptyConfig.toJson =
      .ok (shellArguments line) :=
    beforeExecution_shell_of_rewrite rfl (List.cons_ne_nil _ _) (by decide +kernel) same
      (by decide +kernel)
  obtain ⟨-, cut, read⟩ := notice_stands_before_line ran
    (commandIn?_shellArguments (List.cons_ne_nil _ _))
    (commandIn?_shellArguments (List.cons_ne_nil _ _)) (by decide +kernel) rfl
    (PlainCommand.of_platform Platform.linux)
  rw [same] at cut read
  have follows : Segment.follow .and (segments rewritten) =
      [Segment.ofText (some .and) "gio trash \"a\\\"b\" 'c\n;d'",
        Segment.ofText (some .and) "echo é \\| x",
        Segment.ofText (some .sequence) "sudo gio trash `pwd`"] := by decide +kernel
  rw [follows] at cut
  exact ⟨ran, cut, read⟩

end SafeDelete
