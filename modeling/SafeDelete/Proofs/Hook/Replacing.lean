/-
Module: SafeDelete.Proofs.Hook.Replacing
Purpose: When the callback before a command runs replaces it, and what it puts in its place.
Main exports: except_bind_eq_ok, ReplacesCommand, outputWith, beforeExecution_eq_ok,
  ReplacesCommand.beforeExecution_eq, commandIn?, exists_replacesCommand
-/
import SafeDelete.Hook.Callback
import SafeDelete.Proofs.Json.Readable

namespace SafeDelete

theorem except_bind_eq_ok {ε α β : Type} {found : Except ε α} {next : α → Except ε β}
    {value : β} :
    (found >>= next) = .ok value ↔ ∃ middle, found = .ok middle ∧ next middle = .ok value := by
  cases found with
  | error error => simp [bind, Except.bind]
  | ok middle => simp [bind, Except.bind]

theorem except_bind_eq_error {ε α β : Type} {found : Except ε α} {next : α → Except ε β}
    {error : ε} :
    (found >>= next) = .error error ↔
      found = .error error ∨ ∃ middle, found = .ok middle ∧ next middle = .error error := by
  cases found with
  | error error => simp [bind, Except.bind]
  | ok middle => simp [bind, Except.bind]

theorem ofHost_eq_ok {α : Type} {found : Except Json.Misuse α} {value : α} :
    ofHost found = .ok value ↔ found = .ok value := by
  cases found with
  | error error => simp [ofHost, Except.mapError]
  | ok middle => simp [ofHost, Except.mapError]

theorem ofHost_eq_error {α : Type} {found : Except Json.Misuse α} {error : CallbackError} :
    ofHost found = .error error ↔ ∃ fault, found = .error fault ∧ error = .misuse fault := by
  cases found with
  | error fault => simp [ofHost, Except.mapError, eq_comm]
  | ok middle => simp [ofHost, Except.mapError]

theorem Json.fields_eq_ok {value : Json} {fields : Json.Fields} :
    value.fields = .ok fields ↔ value = .obj fields := by
  cases value <;> simp [Json.fields]

/-- What has to come together so that the command in the arguments of an output is replaced. -/
structure ReplacesCommand (input settings : Json) (fields arguments : Json.Fields)
    (command trash : Text) : Prop where
  tool : ∃ given, input = .obj given ∧ hasText "tool" "bash" given = true
  inOutput : Json.Fields.get? "args" fields = some (.obj arguments)
  inArguments : commandField? arguments = some command
  stopped : ∃ danger, dangerUnder settings command = .ok (some danger)
  trashNamed : setting "trashCommand" settings = .ok (.str trash)
  rewrites : ∃ mode, setting "mode" settings = .ok mode ∧ Mode.ofJson mode = .rewrite
  differs : rewriteToTrash command trash ≠ command

/-- The output with another command in its arguments. -/
def outputWith (fields arguments : Json.Fields) (line : Text) : Json :=
  .obj (Json.Fields.set "args" (.obj (Json.Fields.set "command" (.str line) arguments)) fields)

theorem replaceCommand?_eq_some {command line : Text} {trash : Json}
    (replaced : replaceCommand? command trash = .ok (some line)) :
    ∃ text, trash = .str text ∧ rewriteToTrash command text ≠ command ∧
      line = withNotice command (rewriteToTrash command text) text := by
  cases trash with
  | str text =>
      by_cases same : rewriteToTrash command text = command
      · simp [replaceCommand?, same] at replaced
      · simp only [replaceCommand?, if_neg same] at replaced
        exact ⟨text, rfl, same, (Option.some.inj (Except.ok.inj replaced)).symm⟩
  | _ =>
      simp only [replaceCommand?] at replaced
      split at replaced
      · cases replaced
      · cases replaced

/-- The callback leaves the output as it is, or replaces the command in it. -/
theorem beforeExecution_eq_ok {input output settings after : Json}
    (ran : beforeExecution input output settings = .ok after) :
    after = output ∨ ∃ fields arguments command trash,
      output = .obj fields ∧ ReplacesCommand input settings fields arguments command trash ∧
        after = outputWith fields arguments
          (withNotice command (rewriteToTrash command trash) trash) := by
  unfold beforeExecution at ran
  obtain ⟨given, isGiven, ran⟩ := except_bind_eq_ok.mp ran
  rw [ofHost_eq_ok, Json.fields_eq_ok] at isGiven
  split at ran
  · exact Or.inl (Except.ok.inj ran).symm
  rename_i bash
  obtain ⟨fields, isOutput, ran⟩ := except_bind_eq_ok.mp ran
  rw [ofHost_eq_ok, Json.fields_eq_ok] at isOutput
  split at ran
  case h_2 => exact Or.inl (Except.ok.inj ran).symm
  rename_i arguments inOutput
  split at ran
  · exact Or.inl (Except.ok.inj ran).symm
  rename_i command inArguments
  obtain ⟨danger, stopped, ran⟩ := except_bind_eq_ok.mp ran
  split at ran
  · exact Or.inl (Except.ok.inj ran).symm
  rename_i danger
  obtain ⟨trash, isTrash, ran⟩ := except_bind_eq_ok.mp ran
  obtain ⟨mode, isMode, ran⟩ := except_bind_eq_ok.mp ran
  simp only at ran
  split at ran
  · obtain ⟨_, thrown, _⟩ := except_bind_eq_ok.mp ran
    cases thrown
  rename_i rewrites
  obtain ⟨replaced, isReplaced, ran⟩ := except_bind_eq_ok.mp ran
  split at ran
  · exact Or.inl (Except.ok.inj ran).symm
  rename_i line
  obtain ⟨text, rfl, differs, rfl⟩ := replaceCommand?_eq_some isReplaced
  have isRewrite : Mode.ofJson mode = .rewrite := by
    cases named : Mode.ofJson mode with
    | deny => exact absurd named rewrites
    | rewrite => rfl
  refine Or.inr ⟨fields, arguments, command, text, isOutput, ?_, (Except.ok.inj ran).symm⟩
  exact ⟨⟨given, isGiven, by simpa using bash⟩, inOutput, inArguments, ⟨danger, stopped⟩, isTrash,
    ⟨mode, isMode, isRewrite⟩, differs⟩

/-- Where all that comes together, the command is replaced. -/
theorem ReplacesCommand.beforeExecution_eq {input settings : Json} {fields arguments : Json.Fields}
    {command trash : Text}
    (replaces : ReplacesCommand input settings fields arguments command trash) :
    beforeExecution input (.obj fields) settings =
      .ok (outputWith fields arguments
        (withNotice command (rewriteToTrash command trash) trash)) := by
  obtain ⟨⟨given, rfl, bash⟩, inOutput, inArguments, ⟨danger, stopped⟩, isTrash,
    ⟨mode, isMode, rewrites⟩, differs⟩ := replaces
  have notDeny : ¬Mode.ofJson mode = .deny := by
    rw [rewrites]
    decide
  simp only [beforeExecution, bind, Except.bind, ofHost, Except.mapError, Json.fields, bash,
    inOutput, inArguments, stopped, isTrash, isMode, if_neg notDeny, replaceCommand?,
    if_neg differs, Bool.not_true, Bool.false_eq_true, if_false]
  rfl

/-- The command in the arguments of an output. -/
def commandIn? : Json → Option Text
  | .obj fields =>
    match Json.Fields.get? "args" fields with
    | some (.obj arguments) => commandField? arguments
    | _ => none
  | _ => none

theorem withNotice_ne_nil (command rewritten trash : Text) :
    withNotice command rewritten trash ≠ [] := by
  unfold withNotice
  simp

theorem commandIn?_outputWith (fields arguments : Json.Fields) {line : Text}
    (nonempty : line ≠ []) : commandIn? (outputWith fields arguments line) = some line := by
  have full : ¬line.isEmpty = true := by simpa using nonempty
  simp only [commandIn?, outputWith, Json.Fields.get?_set_self, commandField?, if_neg full]

theorem ReplacesCommand.commandIn?_eq {input settings : Json} {fields arguments : Json.Fields}
    {command trash : Text}
    (replaces : ReplacesCommand input settings fields arguments command trash) :
    commandIn? (.obj fields) = some command := by
  rw [commandIn?, replaces.inOutput]
  exact replaces.inArguments

/-- A command that is not the one it was has been replaced by its rewritten form, behind a
notice. -/
theorem exists_replacesCommand {input output settings after : Json} {command line : Text}
    (ran : beforeExecution input output settings = .ok after)
    (given : commandIn? output = some command) (found : commandIn? after = some line)
    (differs : line ≠ command) :
    ∃ fields arguments trash, output = .obj fields ∧
      ReplacesCommand input settings fields arguments command trash ∧
        line = withNotice command (rewriteToTrash command trash) trash := by
  rcases beforeExecution_eq_ok ran with
    rfl | ⟨fields, arguments, other, trash, rfl, replaces, rfl⟩
  · exact absurd (Option.some.inj (found.symm.trans given)) differs
  · obtain rfl := Option.some.inj (replaces.commandIn?_eq.symm.trans given)
    rw [commandIn?_outputWith _ _ (withNotice_ne_nil _ _ _)] at found
    exact ⟨fields, arguments, trash, rfl, replaces, (Option.some.inj found).symm⟩

end SafeDelete
