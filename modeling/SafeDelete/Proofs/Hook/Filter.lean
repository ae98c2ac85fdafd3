/-
Module: SafeDelete.Proofs.Hook.Filter
Purpose: The filter answers a request exactly where a delete is to be replaced, and changes nothing
  else of it.
Main exports: Filter.Acts, Filter.outcome, Filter.answerUnder_eq_ok, Filter.run_of_isReadFrom,
  Filter.prints_of_acts, Filter.silent_of_not_acts, Filter.prints_iff_deletes
-/
import SafeDelete.Hook.Filter
import SafeDelete.Proofs.Hook.Printing

namespace SafeDelete

variable {host : Host} {stdin : Text} {files after : FileSystem} {config : Config}
  {request : Request}

/-! ## Answering a request -/

namespace Filter

/-- The hook replaces a command that deletes and is not let through, outside of a dry run. -/
abbrev Acts (environment : Environment) (config : Config) (command : Text) : Prop :=
  isAllowlisted command config.allowlist = false ∧ Deletion.inCommand command ≠ [] ∧
    isDryRun environment = false

/-- What the hook leaves behind for a request, apart from the log. -/
def outcome (environment : Environment) (config : Config) (request : Request) : HookRun :=
  if Acts environment config request.command then
    let rewritten := rewriteToTrash request.command config.trashCommand
    .answering (request.withCommand rewritten)
      (remarks request.command rewritten config.trashCommand)
  else .silent

theorem answerUnder_eq_ok (host : Host) (config : Config) (request : Request) (files : FileSystem) :
    ∃ later, answerUnder host config request files =
      .ok (outcome host.environment config request) later := by
  -- One case for each way out of the hook, in the order in which they are tried.
  by_cases listed : isAllowlisted request.command config.allowlist = true
  · have stays : ¬Acts host.environment config request.command := fun acts =>
      Bool.false_ne_true (acts.1.symm.trans listed)
    rw [outcome, if_neg stays, answerUnder, if_pos listed]
    exact ⟨_, rfl⟩
  by_cases deletes : Deletion.inCommand request.command = []
  · rw [outcome, if_neg fun acts => acts.2.1 deletes, answerUnder, if_neg listed,
      if_pos (List.isEmpty_iff.mpr deletes)]
    exact ⟨_, rfl⟩
  have nonempty : ¬(Deletion.inCommand request.command).isEmpty = true := by
    rwa [List.isEmpty_iff]
  by_cases dry : isDryRun host.environment = true
  · have stays : ¬Acts host.environment config request.command := fun acts =>
      Bool.false_ne_true (acts.2.2.symm.trans dry)
    rw [outcome, if_neg stays, answerUnder, if_neg listed, if_neg nonempty, Config.note_bind,
      if_pos dry]
    exact ⟨_, rfl⟩
  · have acts : Acts host.environment config request.command :=
      ⟨Bool.eq_false_iff.mpr listed, deletes, Bool.eq_false_iff.mpr dry⟩
    rw [outcome, if_pos acts, answerUnder, if_neg listed, if_neg nonempty, Config.note_bind,
      if_neg dry]
    exact ⟨_, rfl⟩

theorem respond_of_isReadFrom (asked : request.IsReadFrom stdin) (host : Host)
    (files : FileSystem) : respond host stdin files = answer host request files := by
  rw [respond, Effect.bind_of_ok (Request.read_of_isReadFrom asked host files)]

/-- A request is answered under the settings of the project. -/
theorem run_of_isReadFrom (asked : request.IsReadFrom stdin)
    (loads : Config.load host files = .ok config after) :
    (run host stdin files).1 = outcome host.environment config request := by
  obtain ⟨later, answered⟩ := answerUnder_eq_ok host config request after
  rw [run, respond_of_isReadFrom asked, answer, Effect.bind_of_ok loads, answered]

/-- Whatever is no request leaves the hook silent. -/
theorem run_of_not_isReadFrom (unasked : ∀ request : Request, ¬request.IsReadFrom stdin)
    (host : Host) (files : FileSystem) : (run host stdin files).1 = .silent := by
  rcases Request.read_of_not_isReadFrom unasked host files with ⟨later, read⟩ | ⟨digits, read⟩
  · rw [run, respond, Effect.bind_of_ok read]
    rfl
  · rw [run, respond, Effect.bind_of_error read]

/-- Settings that cannot be loaded leave the hook silent. -/
theorem run_of_load_error {error : InputError}
    (refused : Config.load host files = .error error after) (stdin : Text) :
    (run host stdin files).1 = .silent := by
  by_cases asks : ∃ request : Request, request.IsReadFrom stdin
  · obtain ⟨request, asked⟩ := asks
    rw [run, respond_of_isReadFrom asked, answer, Effect.bind_of_error refused]
  · exact run_of_not_isReadFrom (not_exists.mp asks) host files

/-! ## What is printed -/

theorem prints_of_acts (asked : request.IsReadFrom stdin)
    (loads : Config.load host files = .ok config after)
    (acts : Acts host.environment config request.command) :
    ∃ fields,
      request.ReplacesCommand (rewriteToTrash request.command config.trashCommand) fields ∧
        (run host stdin files).1.Prints fields := by
  obtain ⟨fields, eq, replaces⟩ := asked.replacesCommand_withCommand
    (rewriteToTrash request.command config.trashCommand)
  refine ⟨fields, replaces, ?_⟩
  rw [run_of_isReadFrom asked loads, outcome, if_pos acts]
  exact HookRun.prints_answering (asked.isReadable_withCommand _) eq _

theorem silent_of_not_acts (loads : Config.load host files = .ok config after)
    (stays : ¬∃ request : Request, request.IsReadFrom stdin ∧
      Acts host.environment config request.command) :
    (run host stdin files).1 = .silent := by
  by_cases asks : ∃ request : Request, request.IsReadFrom stdin
  · obtain ⟨request, asked⟩ := asks
    rw [run_of_isReadFrom asked loads, outcome, if_neg fun acts => stays ⟨request, asked, acts⟩]
  · exact run_of_not_isReadFrom (not_exists.mp asks) host files

/-- The hook prints the request with its command replaced if the command deletes, is not let
through, and the run is no dry one; else it prints nothing, and no remark either. -/
theorem prints_iff_deletes (loads : Config.load host files = .ok config after) :
    ((run host stdin files).1.out ≠ [] ↔
      ∃ request : Request, request.IsReadFrom stdin ∧
        isAllowlisted request.command config.allowlist = false ∧
        Deletion.inCommand request.command ≠ [] ∧ isDryRun host.environment = false) ∧
    ((run host stdin files).1.out ≠ [] →
      ∃ (request : Request) (fields : Json.Fields), request.IsReadFrom stdin ∧
        request.ReplacesCommand (rewriteToTrash request.command config.trashCommand) fields ∧
        (run host stdin files).1.Prints fields) ∧
    ((run host stdin files).1.out = [] → (run host stdin files).1.err = []) := by
  by_cases acts : ∃ request : Request, request.IsReadFrom stdin ∧
      Acts host.environment config request.command
  · obtain ⟨request, asked, acts⟩ := acts
    obtain ⟨fields, replaces, prints⟩ := prints_of_acts asked loads acts
    refine ⟨iff_of_true prints.out_ne_nil ⟨request, asked, acts⟩, ?_, ?_⟩
    · intro _
      exact ⟨request, fields, asked, replaces, prints⟩
    · intro nothing
      exact absurd nothing prints.out_ne_nil
  · rw [silent_of_not_acts loads acts]
    refine ⟨iff_of_false (fun some => some rfl) acts, ?_, fun _ => rfl⟩
    intro some
    exact absurd rfl some

theorem prints_deletingText :
    Config.load emptyHost emptyFiles = .ok emptyConfig emptyFiles ∧
      ∃ fields, Request.deleting.ReplacesCommand "gio trash build" fields ∧
        (run emptyHost Request.deletingText emptyFiles).1.Prints fields := by
  obtain ⟨printsIff, printed, -⟩ :=
    @prints_iff_deletes _ Request.deletingText _ _ _ load_emptyHost
  have some := printsIff.mpr
    ⟨Request.deleting, Request.isReadFrom_deletingText, by decide, by decide, by decide⟩
  obtain ⟨request, fields, asked, replaces, prints⟩ := printed some
  obtain rfl := asked.unique Request.isReadFrom_deletingText
  have rewritten : rewriteToTrash Request.deleting.command emptyConfig.trashCommand =
      "gio trash build" := by decide +kernel
  exact ⟨load_emptyHost, fields, rewritten ▸ replaces, prints⟩

end Filter

end SafeDelete
