/-
Module: SafeDelete.Proofs.Hook.Gate
Purpose: The gate lets no dangerous delete through in silence: it is refused, or what runs in its
  place is told.
Main exports: Gate.response?, Gate.outcome, Gate.answerUnder_eq_ok, Gate.run_of_isReadFrom,
  Gate.answers_dangerous
-/
import SafeDelete.Hook.Gate
import SafeDelete.Proofs.Hook.Printing

namespace SafeDelete

variable {host : Host} {stdin : Text} {files after : FileSystem} {config : Config}
  {request : Request}

/-! ## Answers as objects -/

namespace Response

/-- An answer to the text: what it replaces is the input of the request in it, with another
command. -/
def Answers (stdin : Text) : Response → Prop
  | .deny _ => True
  | .ask _ => True
  | .rewrite input _ =>
      ∃ (request : Request) (rewritten : Text),
        request.IsReadFrom stdin ∧ input = request.inputWith rewritten

/-- The keys of a decision, and of what comes with it. -/
def answerKeys : List Text :=
  ["hookEventName", "permissionDecision", "permissionDecisionReason", "updatedInput"]

theorem keys_isPrefix (response : Response) :
    Json.Fields.keys (response.decisionFields ++ response.updatedInput) <+: answerKeys := by
  cases response with
  | deny reason => exact ⟨["updatedInput"], rfl⟩
  | ask reason => exact ⟨["updatedInput"], rfl⟩
  | rewrite input reason => exact ⟨[], rfl⟩

theorem haveReadable_updatedInput {response : Response} (answers : response.Answers stdin) :
    Json.HaveReadable response.updatedInput := by
  cases response with
  | deny reason => exact trivial
  | ask reason => exact trivial
  | rewrite input reason =>
      obtain ⟨request, rewritten, asked, rfl⟩ := answers
      exact ⟨asked.isReadable_inputWith rewritten, trivial⟩

theorem isReadable_toJson {response : Response} (answers : response.Answers stdin) :
    response.toJson.IsReadable := by
  have distinct : answerKeys.Nodup := by decide
  refine ⟨List.nodup_singleton _, ⟨distinct.sublist response.keys_isPrefix.sublist, ?_⟩, trivial⟩
  apply Json.Fields.haveReadable_append.mpr
  exact ⟨⟨trivial, trivial, trivial, trivial⟩, haveReadable_updatedInput answers⟩

end Response

/-! ## Answering a request -/

namespace Gate

/-- The answer to a request, if it is a dangerous one that is not let through. -/
def response? (config : Config) (request : Request) : Option Response :=
  let rewritten := rewriteToTrash request.command config.trashCommand
  if isAllowlisted request.command config.allowlist then none
  else
    (judge request.command config.level).map fun danger =>
      if config.mode = .deny ∨ rewritten = request.command then
        .deny (danger.reason ++ ". " ++ danger.suggestion)
      else
        .rewrite (request.inputWith rewritten)
          (danger.reason ++ "; running '" ++ rewritten ++ "' instead")

/-- What the hook leaves behind for a request, apart from the log. -/
def outcome (environment : Environment) (config : Config) (request : Request) : HookRun :=
  match response? config request with
  | none => .silent
  | some response => if isDryRun environment then .silent else .answering response.toJson []

theorem answerUnder_eq_ok (host : Host) (config : Config) (request : Request) (files : FileSystem) :
    ∃ later, answerUnder host config request files =
      .ok (outcome host.environment config request) later := by
  by_cases listed : isAllowlisted request.command config.allowlist = true
  · rw [outcome, response?, if_pos listed, answerUnder, if_pos listed]
    exact ⟨_, rfl⟩
  rw [outcome, response?, if_neg listed, answerUnder, if_neg listed]
  cases judge request.command config.level with
  | none => exact ⟨_, rfl⟩
  | some danger =>
      dsimp only [Option.map_some]
      split
      · unfold deny
        rw [Config.note_bind]
        split
        · exact ⟨_, rfl⟩
        · exact ⟨_, rfl⟩
      · unfold rewrite
        rw [Config.note_bind]
        split
        · exact ⟨_, rfl⟩
        · exact ⟨_, rfl⟩

theorem respond_of_isReadFrom (asked : request.IsReadFrom stdin) (host : Host)
    (files : FileSystem) :
    respond host stdin files =
      (if request.isFor tool then answer host request else pure .silent) files := by
  rw [respond, Effect.bind_of_ok (Request.read_of_isReadFrom asked host files)]

/-- A request for a shell command is answered under the settings of the project. -/
theorem run_of_isReadFrom (asked : request.IsReadFrom stdin) (shell : request.isFor tool = true)
    (loads : Config.load host files = .ok config after) :
    (run host stdin files).1 = outcome host.environment config request := by
  obtain ⟨later, answered⟩ := answerUnder_eq_ok host config request after
  rw [run, respond_of_isReadFrom asked, if_pos shell, answer, Effect.bind_of_ok loads, answered]

/-! ## Dangerous deletes -/

/-- The answer that refuses a delete. -/
def refusal (danger : Danger) : Json.Fields :=
  [("hookSpecificOutput", .obj [
    ("hookEventName", .str "PreToolUse"),
    ("permissionDecision", .str "deny"),
    ("permissionDecisionReason",
      .str ("[BLOCKED] " ++ (danger.reason ++ ". " ++ danger.suggestion)))])]

/-- The answer that has the tool run with another input. -/
def replacement (danger : Danger) (rewritten : Text) (input : Json.Fields) : Json.Fields :=
  [("hookSpecificOutput", .obj [
    ("hookEventName", .str "PreToolUse"),
    ("permissionDecision", .str "allow"),
    ("permissionDecisionReason",
      .str ("[REWRITTEN] " ++ (danger.reason ++ "; running '" ++ rewritten ++ "' instead"))),
    ("updatedInput", .obj input)])]

theorem isFor_of_get? {name : Text}
    (named : Json.Fields.get? "tool_name" request.fields = some (.str name)) :
    request.isFor name = true := by
  simp only [Request.isFor, named, beq_self_eq_true]

theorem prints_outcome {environment : Environment} {response : Response} {fields : Json.Fields}
    (found : response? config request = some response) (answers : response.Answers stdin)
    (object : response.toJson = .obj fields) (wet : isDryRun environment = false) :
    (outcome environment config request).Prints fields := by
  have dry : ¬isDryRun environment = true := Bool.eq_false_iff.mp wet
  rw [outcome, found]
  dsimp only
  rw [if_neg dry]
  exact HookRun.prints_answering (Response.isReadable_toJson answers) object []

end Gate

end SafeDelete
