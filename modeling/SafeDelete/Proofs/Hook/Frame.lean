/-
Module: SafeDelete.Proofs.Hook.Frame
Purpose: What the callbacks leave as it was: the whole output where they fail, and else all of it
  but one field.
Main exports: Callback.settled, Callback.permission_eq_settled, Callback.execution_eq_settled,
  Json.Fields.AgreeBut, callbacks_write_one_field
-/
import SafeDelete.Hook.InPlace
import SafeDelete.Proofs.Hook.Denial
import SafeDelete.Proofs.Hook.Replacing

namespace SafeDelete

/-!
### Callbacks in place

A callback that writes into the output of its host could fail after it has written.  Neither does:
each writes once, as the last thing it does.  So its run comes to the same as working out the whole
output first and handing it over only if nothing failed.
-/

namespace Callback

/-- The end of a run that hands over a result, and leaves the output as it was where there is
none. -/
def settled (output : Json) : Except CallbackError Json → EStateM.Result CallbackError Json Unit
  | .ok after => .ok () after
  | .error error => .error error output

variable {α : Type} {output : Json}

/-- A step that only looks something up leaves the output as it is. -/
theorem expect_bind_eq_settled {found : Except CallbackError α} {next : α → Callback Unit}
    {result : α → Except CallbackError Json}
    (later : ∀ value, found = .ok value → next value output = settled output (result value)) :
    (expect found >>= next) output = settled output (found >>= result) := by
  cases found with
  | error error => rfl
  | ok value => exact later value rfl

theorem write_eq_settled (key : Text) (value : Json) :
    write key value output = settled output (ofHost (output.assign key value)) := by
  rw [write]
  cases output.assign key value with
  | error fault => rfl
  | ok written => rfl

theorem permission_eq_settled (input output settings : Json) :
    permission input settings output = settled output (permissionAsk input output settings) := by
  unfold permission permissionAsk
  refine expect_bind_eq_settled fun mode _ => ?_
  by_cases denies : Mode.ofJson mode ≠ .deny
  · rw [if_pos denies, if_pos denies]
    rfl
  rw [if_neg denies, if_neg denies]
  refine expect_bind_eq_settled fun given _ => ?_
  cases hasText "type" "bash" given with
  | false => rfl
  | true =>
      simp only [Bool.not_true, Bool.false_eq_true, if_false]
      -- Whether or not there are metadata, the rest is the same.
      split
      all_goals
        refine expect_bind_eq_settled fun metadata _ => ?_
        cases commandField? metadata with
        | none => rfl
        | some command =>
            refine expect_bind_eq_settled fun danger _ => ?_
            cases danger with
            | none => rfl
            | some danger => exact write_eq_settled _ _

theorem execution_eq_settled (input output settings : Json) :
    execution input settings output = settled output (beforeExecution input output settings) := by
  unfold execution beforeExecution
  refine expect_bind_eq_settled fun given _ => ?_
  cases hasText "tool" "bash" given with
  | false => rfl
  | true =>
      refine expect_bind_eq_settled fun fields isOutput => ?_
      obtain rfl := Json.fields_eq_ok.mp (ofHost_eq_ok.mp isOutput)
      cases Json.Fields.get? "args" fields with
      | none => rfl
      | some value =>
          cases value with
          | obj arguments =>
              dsimp only
              cases commandField? arguments with
              | none => rfl
              | some command =>
                  refine expect_bind_eq_settled fun danger _ => ?_
                  cases danger with
                  | none => rfl
                  | some danger =>
                      refine expect_bind_eq_settled fun trash _ => ?_
                      refine expect_bind_eq_settled fun mode _ => ?_
                      by_cases denies : Mode.ofJson mode = .deny
                      · simp only [if_pos denies]
                        rfl
                      · simp only [if_neg denies]
                        refine expect_bind_eq_settled fun replaced _ => ?_
                        cases replaced with
                        | none => rfl
                        | some line => exact write_eq_settled _ _
          | _ => rfl

end Callback

/-!
### One field
-/

namespace Json.Fields

/-- The fields are the same, in the same order, apart from those of one key. -/
def AgreeBut (key : Text) (before after : Fields) : Prop :=
  after.filter (·.1 ≠ key) = before.filter (·.1 ≠ key)

theorem agreeBut_set (key : Text) (value : Json) (fields : Fields) :
    AgreeBut key fields (set key value fields) := by
  unfold AgreeBut
  induction fields with
  | nil => simp [set]
  | cons field rest ih =>
      obtain ⟨name, old⟩ := field
      rw [set]
      split
      · rename_i same
        simp [same]
      · rename_i other
        rw [List.filter_cons_of_pos (by simpa using other),
          List.filter_cons_of_pos (by simpa using other), ih]

end Json.Fields

/-- The status is denial, and everything else is as it was. -/
structure IsMarkedDenied (before after : Json.Fields) : Prop where
  status : Json.Fields.get? "status" after = some (.str "deny")
  others : Json.Fields.AgreeBut "status" before after

/-- Another line stands where the command was among the arguments, and everything else is as it
was. -/
structure HasCommandReplaced (before after : Json.Fields) (command line : Text) : Prop where
  arguments : ∃ old new,
    Json.Fields.get? "args" before = some (.obj old) ∧
      Json.Fields.get? "args" after = some (.obj new) ∧
        Json.Fields.get? "command" old = some (.str command) ∧
          Json.Fields.get? "command" new = some (.str line) ∧
            Json.Fields.AgreeBut "command" old new
  others : Json.Fields.AgreeBut "args" before after

theorem permissionAsk_eq_ok {input output settings after : Json}
    (ran : permissionAsk input output settings = .ok after) :
    after = output ∨ output.assign "status" (.str "deny") = .ok after := by
  unfold permissionAsk at ran
  obtain ⟨mode, -, ran⟩ := except_bind_eq_ok.mp ran
  split at ran
  · exact Or.inl (Except.ok.inj ran).symm
  obtain ⟨given, -, ran⟩ := except_bind_eq_ok.mp ran
  split at ran
  · exact Or.inl (Except.ok.inj ran).symm
  simp only at ran
  split at ran
  all_goals
    obtain ⟨metadata, -, ran⟩ := except_bind_eq_ok.mp ran
    split at ran
    · exact Or.inl (Except.ok.inj ran).symm
    obtain ⟨danger, -, ran⟩ := except_bind_eq_ok.mp ran
    split at ran
    · exact Or.inl (Except.ok.inj ran).symm
    · exact Or.inr (ofHost_eq_ok.mp ran)

theorem Json.exists_of_fields_eq_error {value : Json} {fault : Json.Misuse}
    (failed : value.fields = .error fault) : ∃ kind, fault = .attribute "get" kind := by
  cases value with
  | obj fields => cases failed
  | _ => exact ⟨_, (Except.error.inj failed).symm⟩

section

variable {input output : Json.Fields} {config : Config} {error : CallbackError}

/-- Between objects and under proper settings, the permission callback fails where the metadata are
something else than an object. -/
theorem permissionAsk_eq_error
    (failed : permissionAsk (.obj input) (.obj output) config.toJson = .error error) :
    ∃ kind, error = .misuse (.attribute "get" kind) := by
  unfold permissionAsk at failed
  rw [setting_mode] at failed
  obtain lookup | ⟨mode, -, failed⟩ := except_bind_eq_error.mp failed
  · cases lookup
  split at failed
  · cases failed
  obtain lookup | ⟨given, -, failed⟩ := except_bind_eq_error.mp failed
  · cases lookup
  split at failed
  · cases failed
  simp only [dangerUnder_toJson] at failed
  split at failed
  all_goals obtain lookup | ⟨metadata, -, failed⟩ := except_bind_eq_error.mp failed
  case isTrue.inl => cases lookup
  case isFalse.inl =>
    obtain ⟨fault, noObject, rfl⟩ := ofHost_eq_error.mp lookup
    obtain ⟨kind, rfl⟩ := Json.exists_of_fields_eq_error noObject
    exact ⟨kind, rfl⟩
  all_goals
    split at failed
    · cases failed
    obtain lookup | ⟨danger, -, failed⟩ := except_bind_eq_error.mp failed
    · cases lookup
    split at failed
    · cases failed
    · cases failed

/-- Between objects and under proper settings, the callback before a command runs fails by refusing
the command, in deny mode. -/
theorem beforeExecution_eq_error
    (failed : beforeExecution (.obj input) (.obj output) config.toJson = .error error) :
    config.mode = .deny ∧ ∃ refusal, error = .blocked refusal := by
  have trashNamed : setting "trashCommand" config.toJson = .ok (.str config.trashCommand) := rfl
  unfold beforeExecution at failed
  rw [setting_mode, trashNamed] at failed
  obtain lookup | ⟨given, -, failed⟩ := except_bind_eq_error.mp failed
  · cases lookup
  split at failed
  · cases failed
  obtain lookup | ⟨fields, -, failed⟩ := except_bind_eq_error.mp failed
  · cases lookup
  split at failed
  case h_2 => cases failed
  split at failed
  · cases failed
  rw [dangerUnder_toJson] at failed
  obtain lookup | ⟨danger, -, failed⟩ := except_bind_eq_error.mp failed
  · cases lookup
  split at failed
  · cases failed
  obtain lookup | ⟨trash, isTrash, failed⟩ := except_bind_eq_error.mp failed
  · cases lookup
  obtain lookup | ⟨mode, isMode, failed⟩ := except_bind_eq_error.mp failed
  · cases lookup
  obtain rfl := Except.ok.inj isTrash
  obtain rfl := Except.ok.inj isMode
  simp only [Mode.ofJson_text] at failed
  split at failed
  · rename_i denies
    exact ⟨denies, _, (Except.error.inj failed).symm⟩
  · rw [replaceCommand?] at failed
    obtain lookup | ⟨replaced, -, failed⟩ := except_bind_eq_error.mp failed
    · cases lookup
    split at failed
    · cases failed
    · cases failed

end

/-- A command that is found as one is a field of that text. -/
theorem get?_of_commandField? {fields : Json.Fields} {command : Text}
    (found : commandField? fields = some command) :
    Json.Fields.get? "command" fields = some (.str command) := by
  unfold commandField? at found
  split at found
  · rename_i text isText
    split at found
    · cases found
    · rw [isText, Option.some.inj found]
  · cases found

theorem get?_of_hasText {key text : Text} {fields : Json.Fields}
    (has : hasText key text fields = true) :
    Json.Fields.get? key fields = some (.str text) := by
  unfold hasText at has
  split at has
  · rename_i found isText
    rw [isText, beq_iff_eq.mp has]
  · cases has

/-- What is put in the place of a command ends in the rewritten one. -/
theorem suffix_withNotice (command rewritten trash : Text) :
    (" && " : Text) ++ rewritten <:+ withNotice command rewritten trash := by
  unfold withNotice
  rw [List.append_assoc]
  exact List.suffix_append _ _

theorem ReplacesCommand.hasCommandReplaced {given settings : Json}
    {fields arguments : Json.Fields} {command trash : Text}
    (replaces : ReplacesCommand given settings fields arguments command trash) (line : Text) :
    ∃ changed, outputWith fields arguments line = .obj changed ∧
      HasCommandReplaced fields changed command line :=
  ⟨_, rfl,
    { arguments := ⟨arguments, _, replaces.inOutput, Json.Fields.get?_set_self _ _ _,
        get?_of_commandField? replaces.inArguments, Json.Fields.get?_set_self _ _ _,
        Json.Fields.agreeBut_set _ _ _⟩
      others := Json.Fields.agreeBut_set _ _ _ }⟩

/-- Whatever a host hands over, each callback leaves its output as it was where it fails, and else
writes at most one field of it.  The permission callback writes a status, which is denial; the other
one writes the command among the arguments, in rewriting mode and for the tool that runs shell
commands, and what it writes ends in the rewritten command. -/
theorem callbacks_write_one_field (input output : Json.Fields) (config : Config) :
    (match Callback.permission (.obj input) config.toJson (.obj output) with
      | .ok () after =>
        after = .obj output ∨ ∃ marked, after = .obj marked ∧ IsMarkedDenied output marked
      | .error error after =>
        after = .obj output ∧ ∃ kind, error = .misuse (.attribute "get" kind)) ∧
    match Callback.execution (.obj input) config.toJson (.obj output) with
      | .ok () after =>
        after = .obj output ∨
          config.mode = .rewrite ∧
            Json.Fields.get? "tool" input = some (.str "bash") ∧
              ∃ changed command line, after = .obj changed ∧
                HasCommandReplaced output changed command line ∧
                  (" && " : Text) ++ rewriteToTrash command config.trashCommand <:+ line
      | .error error after =>
        after = .obj output ∧ config.mode = .deny ∧ ∃ refusal, error = .blocked refusal := by
  rw [Callback.permission_eq_settled, Callback.execution_eq_settled]
  constructor
  · cases ran : permissionAsk (.obj input) (.obj output) config.toJson with
    | error error => exact ⟨rfl, permissionAsk_eq_error ran⟩
    | ok after =>
        rcases permissionAsk_eq_ok ran with same | written
        · exact Or.inl same
        · exact Or.inr ⟨_, (Except.ok.inj written).symm, Json.Fields.get?_set_self _ _ _,
            Json.Fields.agreeBut_set _ _ _⟩
  · cases ran : beforeExecution (.obj input) (.obj output) config.toJson with
    | error error => exact ⟨rfl, beforeExecution_eq_error ran⟩
    | ok after =>
        rcases beforeExecution_eq_ok ran with
          same | ⟨fields, arguments, command, trash, isOutput, replaces, rfl⟩
        · exact Or.inl same
        obtain rfl := Json.obj.inj isOutput
        obtain ⟨given, isInput, bash⟩ := replaces.tool
        obtain rfl := Json.obj.inj isInput
        obtain rfl : config.trashCommand = trash :=
          Json.str.inj (Except.ok.inj replaces.trashNamed)
        obtain ⟨mode, isMode, rewrites⟩ := replaces.rewrites
        obtain rfl : .str config.mode.text = mode := Except.ok.inj isMode
        obtain ⟨changed, eq, replaced⟩ := replaces.hasCommandReplaced
          (withNotice command (rewriteToTrash command config.trashCommand) config.trashCommand)
        refine Or.inr ⟨?_, get?_of_hasText bash, changed, command, _, eq, replaced,
          suffix_withNotice _ _ _⟩
        exact (Mode.ofJson_text config.mode).symm.trans rewrites

/-- A field beside the status stays, and the status comes behind it. -/
example : Callback.permission (shellPermission "rm -rf build") denyingConfig.toJson
    (.obj [("reason", .null)]) =
      .ok () (.obj [("reason", .null), ("status", .str "deny")]) := by
  rfl

end SafeDelete
