/-
Module: SafeDelete.Proofs.Hook.Denial
Purpose: In deny mode both callbacks and the gate refuse the same commands, by one policy.
Main exports: Config.danger?, dangerUnder_toJson, permissionAsk_shell, beforeExecution_shell,
  Gate.response?_of_deny, denials_agree
-/
import Mathlib.Tactic.TFAE
import SafeDelete.Hook.Callback
import SafeDelete.Proofs.Hook.Gate
import SafeDelete.Proofs.Policy.AllowList

namespace SafeDelete

variable {host : Host} {files : FileSystem} {config : Config} {command : Text} {request : Request}

/-! ## The policy behind the callbacks -/

/-- Why settings stop a command, if they do. -/
def Config.danger? (config : Config) (command : Text) : Option Danger :=
  if isAllowlisted command config.allowlist then none else judge command config.level

theorem Config.danger?_eq_some_iff {danger : Danger} :
    config.danger? command = some danger ↔
      isAllowlisted command config.allowlist = false ∧
        judge command config.level = some danger := by
  unfold Config.danger?
  cases isAllowlisted command config.allowlist with
  | true => simp
  | false => simp

theorem Mode.ofJson_text (mode : Mode) : Mode.ofJson (.str mode.text) = mode := by
  cases mode with
  | deny => rfl
  | rewrite => rfl

theorem Level.ofJson_text (level : Level) : Level.ofJson (.str level.text) = level := by
  cases level with
  | normal => rfl
  | strict => rfl

/-- The callbacks, which look into settings of any kind, find in proper ones what the gate does. -/
theorem dangerUnder_toJson (config : Config) (command : Text) :
    dangerUnder config.toJson command = .ok (config.danger? command) := by
  have admitted : AllowList.admits (.arr (config.allowlist.map .str)) command =
      .ok (isAllowlisted command config.allowlist) :=
    AllowList.someAccepts_map_str command config.allowlist
  have allowlist : setting "allowlist" config.toJson = .ok (.arr (config.allowlist.map .str)) := rfl
  have level : setting "level" config.toJson = .ok (.str config.level.text) := rfl
  rw [dangerUnder, allowlist, Config.danger?]
  simp only [bind, Except.bind, admitted, Except.mapError, level, Level.ofJson_text]
  split
  · rfl
  · rfl

theorem setting_mode (config : Config) :
    setting "mode" config.toJson = .ok (.str config.mode.text) :=
  rfl

theorem ofJson_mode_eq_deny (denies : config.mode = .deny) :
    Mode.ofJson (.str config.mode.text) = .deny :=
  (Mode.ofJson_text config.mode).trans denies

/-! ## The callbacks -/

/-- What a host hands to the permission callback for a shell command. -/
def shellPermission (command : Text) : Json :=
  .obj [("type", .str "bash"), ("metadata", .obj [("command", .str command)])]

/-- What a host hands over about the tool that runs shell commands. -/
def shellTool : Json :=
  .obj [("tool", .str "bash")]

/-- The arguments of the tool, as a host hands them over. -/
def shellArguments (command : Text) : Json :=
  .obj [("args", .obj [("command", .str command)])]

theorem commandField?_singleton (given : command ≠ []) :
    commandField? [("command", .str command)] = some command := by
  have full : ¬command.isEmpty = true := fun empty => given (List.isEmpty_iff.mp empty)
  exact if_neg full

/-- In deny mode the permission callback marks the output where the policy stops the command, and
else leaves it as it is. -/
theorem permissionAsk_shell (denies : config.mode = .deny) (given : command ≠ [])
    (output : Json.Fields) :
    permissionAsk (shellPermission command) (.obj output) config.toJson =
      .ok (.obj (match config.danger? command with
        | none => output
        | some _ => Json.Fields.set "status" (.str "deny") output)) := by
  have asks : ¬Mode.ofJson (.str config.mode.text) ≠ .deny :=
    not_not.mpr (ofJson_mode_eq_deny denies)
  have bash : hasText "type" "bash"
      [("type", .str "bash"), ("metadata", .obj [("command", .str command)])] = true := rfl
  have metadata : Json.Fields.get? "metadata"
      [("type", .str "bash"), ("metadata", .obj [("command", .str command)])] =
        some (.obj [("command", .str command)]) := rfl
  simp only [permissionAsk, setting_mode, bind, Except.bind, if_neg asks, shellPermission,
    Json.fields, ofHost, Except.mapError, bash, metadata, Option.getD_some, Json.isFalsy,
    List.isEmpty_cons, commandField?_singleton given, dangerUnder_toJson, Bool.not_true,
    Bool.false_eq_true, if_false]
  cases config.danger? command with
  | none => rfl
  | some danger => rfl

/-- A mark on the output of the permission callback is the policy's. -/
theorem permissionAsk_marks_iff (denies : config.mode = .deny) (given : command ≠ [])
    {output : Json.Fields} (unmarked : Json.Fields.get? "status" output ≠ some (.str "deny")) :
    (∃ marked, permissionAsk (shellPermission command) (.obj output) config.toJson =
        .ok (.obj marked) ∧ Json.Fields.get? "status" marked = some (.str "deny")) ↔
      (config.danger? command).isSome := by
  rw [permissionAsk_shell denies given]
  cases config.danger? command with
  | none =>
      refine ⟨?_, fun stopped => absurd stopped Bool.false_ne_true⟩
      rintro ⟨marked, same, mark⟩
      obtain rfl := Json.obj.inj (Except.ok.inj same)
      exact absurd mark unmarked
  | some danger =>
      exact ⟨fun _ => rfl, fun _ => ⟨_, rfl, Json.Fields.get?_set_self _ _ _⟩⟩

/-- In deny mode the callback before a command runs ends in a refusal where the policy stops the
command, and else leaves the arguments as they are. -/
theorem beforeExecution_shell (denies : config.mode = .deny) (given : command ≠ []) :
    beforeExecution shellTool (shellArguments command) config.toJson =
      match config.danger? command with
      | none => .ok (shellArguments command)
      | some danger => .error (.blocked ⟨command, danger.reason, danger.suggestion⟩) := by
  have bash : hasText "tool" "bash" [("tool", .str "bash")] = true := rfl
  have arguments : Json.Fields.get? "args" [("args", .obj [("command", .str command)])] =
      some (.obj [("command", .str command)]) := rfl
  have trash : setting "trashCommand" config.toJson = .ok (.str config.trashCommand) := rfl
  simp only [beforeExecution, shellTool, shellArguments, Json.fields, ofHost, Except.mapError,
    bind, Except.bind, bash, arguments, commandField?_singleton given, dangerUnder_toJson,
    Bool.not_true, Bool.false_eq_true, if_false]
  cases config.danger? command with
  | none => rfl
  | some danger =>
      simp only [trash, setting_mode, if_pos (ofJson_mode_eq_deny denies)]
      rfl

/-- A refusal tells the command and what the policy says about it. -/
theorem beforeExecution_refuses_iff (denies : config.mode = .deny) (given : command ≠ [])
    {refusal : BlockedCommand} :
    beforeExecution shellTool (shellArguments command) config.toJson =
        .error (.blocked refusal) ↔
      ∃ danger, config.danger? command = some danger ∧
        refusal = ⟨command, danger.reason, danger.suggestion⟩ := by
  rw [beforeExecution_shell denies given]
  cases config.danger? command with
  | none => simp
  | some danger => simp [eq_comm]

/-! ## The gate -/

/-- In deny mode the gate answers a shell command where the policy stops it, and then refuses. -/
theorem Gate.response?_of_deny (denies : config.mode = .deny) (request : Request) :
    response? config request = (config.danger? request.command).map fun danger =>
      .deny (danger.reason ++ ". " ++ danger.suggestion) := by
  simp only [response?, Config.danger?, denies, true_or, if_true]
  split
  · rfl
  · rfl

/-- The hook ends well, and prints a refusal. -/
def HookRun.PrintsDenial (run : HookRun) : Prop :=
  ∃ (reason : Text) (fields : Json.Fields),
    (Response.deny reason).toJson = .obj fields ∧ run.Prints fields

/-- In deny mode, and outside of a dry run, a refusal is printed where the policy stops the
command. -/
theorem Gate.printsDenial_outcome_iff (denies : config.mode = .deny)
    (wet : isDryRun host.environment = false) :
    (outcome host.environment config request).PrintsDenial ↔
      (config.danger? request.command).isSome := by
  have response := response?_of_deny denies request
  constructor
  · rintro ⟨reason, fields, -, prints⟩
    cases stopped : config.danger? request.command with
    | some danger => rfl
    | none =>
        rw [outcome, response, stopped] at prints
        exact absurd rfl prints.out_ne_nil
  · intro stopped
    obtain ⟨danger, eq⟩ := Option.isSome_iff_exists.mp stopped
    rw [eq] at response
    exact ⟨_, _, rfl, @prints_outcome [] _ _ _ _ _ response trivial rfl wet⟩

/-! ## Agreement -/

/-- In deny mode these come to the same for a command: the permission callback marks the output,
the callback before it runs ends in a refusal, the gate prints a refusal outside of a dry run, and
the policy stops it.  The refusal tells the command and what the policy says about it; and the gate
answers its text as it does the request in it. -/
theorem denials_agree (denies : config.mode = .deny) (given : command ≠ [])
    {output : Json.Fields} (unmarked : Json.Fields.get? "status" output ≠ some (.str "deny"))
    (wet : isDryRun host.environment = false) (asks : request.command = command) :
    [ ∃ marked, permissionAsk (shellPermission command) (.obj output) config.toJson =
          .ok (.obj marked) ∧ Json.Fields.get? "status" marked = some (.str "deny"),
      ∃ refusal, beforeExecution shellTool (shellArguments command) config.toJson =
          .error (.blocked refusal),
      ∃ run later, Gate.answerUnder host config request files = .ok run later ∧ run.PrintsDenial,
      isAllowlisted command config.allowlist = false ∧
        (judge command config.level).isSome ].TFAE ∧
    (∀ refusal, beforeExecution shellTool (shellArguments command) config.toJson =
        .error (.blocked refusal) →
      ∃ danger, judge command config.level = some danger ∧
        refusal = ⟨command, danger.reason, danger.suggestion⟩) ∧
    ∀ (stdin : Text) (before : FileSystem), request.IsReadFrom stdin →
      Json.Fields.get? "tool_name" request.fields = some (.str "Bash") →
      Config.load host before = .ok config files →
        ((Gate.run host stdin before).1.PrintsDenial ↔
          isAllowlisted command config.allowlist = false ∧
            (judge command config.level).isSome) := by
  have policy : (config.danger? command).isSome ↔
      isAllowlisted command config.allowlist = false ∧ (judge command config.level).isSome := by
    simp only [Option.isSome_iff_exists, Config.danger?_eq_some_iff, exists_and_left]
  have gate := @Gate.printsDenial_outcome_iff host config request denies wet
  rw [asks] at gate
  refine ⟨?_, ?_, ?_⟩
  · rw [← policy]
    tfae_have 1 ↔ 4 := permissionAsk_marks_iff denies given unmarked
    tfae_have 2 ↔ 4 := by
      simp only [beforeExecution_refuses_iff denies given, Option.isSome_iff_exists]
      rw [exists_comm]
      simp only [exists_and_left, exists_eq, and_true]
    tfae_have 3 ↔ 4 := by
      obtain ⟨last, answered⟩ := Gate.answerUnder_eq_ok host config request files
      rw [answered, ← gate]
      constructor
      · rintro ⟨run, later, same, prints⟩
        obtain ⟨rfl, -⟩ := EStateM.Result.ok.inj same
        exact prints
      · exact fun prints => ⟨_, last, rfl, prints⟩
    tfae_finish
  · intro refusal refuses
    obtain ⟨danger, stopped, told⟩ := (beforeExecution_refuses_iff denies given).mp refuses
    exact ⟨danger, (Config.danger?_eq_some_iff.mp stopped).2, told⟩
  · intro stdin before asked shell loads
    rw [Gate.run_of_isReadFrom asked (Gate.isFor_of_get? shell) loads, gate, policy]

/-- A machine on which deletes are denied. -/
def denyingHost : Host := ⟨[(modeVariable, "deny")], Platform.linux, "2024-01-01T00:00:00"⟩

/-- The settings on it. -/
def denyingConfig : Config := Config.build denyingHost.environment [] Platform.linux

theorem denials_agree_deleting : ∃ danger : Danger,
    (∃ marked, permissionAsk (shellPermission "rm -rf build") (.obj []) denyingConfig.toJson =
      .ok (.obj marked) ∧ Json.Fields.get? "status" marked = some (.str "deny")) ∧
    beforeExecution shellTool (shellArguments "rm -rf build") denyingConfig.toJson =
      .error (.blocked ⟨"rm -rf build", danger.reason, danger.suggestion⟩) ∧
    (Gate.run denyingHost Request.deletingText emptyFiles).1.PrintsDenial := by
  have loads : Config.load denyingHost emptyFiles = .ok denyingConfig emptyFiles := rfl
  have policy : isAllowlisted "rm -rf build" denyingConfig.allowlist = false ∧
      (judge "rm -rf build" denyingConfig.level).isSome := by decide +kernel
  obtain ⟨agree, tells, gate⟩ := @denials_agree denyingHost emptyFiles denyingConfig
    "rm -rf build" Request.deleting (by decide) (by decide) [] (by rintro ⟨⟩) (by decide) rfl
  obtain ⟨refusal, refuses⟩ := (agree.out 1 3).mpr policy
  obtain ⟨danger, -, rfl⟩ := tells refusal refuses
  exact ⟨danger, (agree.out 0 3).mpr policy, refuses,
    (gate _ _ Request.isReadFrom_deletingText rfl loads).mpr policy⟩

end SafeDelete
