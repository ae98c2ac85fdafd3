/-
Module: SafeDelete.Proofs.Hook.DryRun
Purpose: A dry run prints nothing, but for what the gate answers to an error of its own.
Main exports: Gate.Fails, Gate.respond_eq_error_iff, Gate.filesAfter, Gate.run_of_fails,
  Gate.run_of_forall_not_fails, dryRun_prints_failures_only, dryRun_prints_refusal
-/
import SafeDelete.Proofs.Hook.FailSoft

namespace SafeDelete

variable {host : Host} {stdin : Text} {files later : FileSystem} {run : HookRun}
  {error : InputError}

/-! ## Errors of the gate -/

namespace Gate

/-- What ends the work of the gate early: a number in the text that is too long, or settings that
cannot be loaded for a shell command in it. -/
inductive Fails (host : Host) (stdin : Text) (files : FileSystem) : InputError → Prop where
  | number {digits : Nat} (long : Json.parse stdin = .error (.oversized digits)) :
      Fails host stdin files (.oversized digits)
  | settings {request : Request} {error : InputError} (asked : request.IsReadFrom stdin)
      (shell : request.isFor tool = true) (refuses : Config.Refuses host files error) :
      Fails host stdin files error

theorem answer_eq_error_iff {request : Request} :
    answer host request files = .error error later ↔
      later = files ∧ Config.Refuses host files error := by
  rw [answer, Effect.bind_eq_error]
  constructor
  · rintro (refused | ⟨config, after, -, refused⟩)
    · exact Config.refuses_of_load_eq_error refused
    · obtain ⟨last, answered⟩ := answerUnder_eq_ok host config request after
      rw [answered] at refused
      contradiction
  · rintro ⟨rfl, refuses⟩
    exact .inl (Config.load_of_refuses refuses)

/-- The gate ends early by these errors and no others, and has changed nothing by then. -/
theorem respond_eq_error_iff :
    respond host stdin files = .error error later ↔
      later = files ∧ Fails host stdin files error := by
  constructor
  · intro refused
    rw [respond, Effect.bind_eq_error] at refused
    rcases refused with refused | ⟨found, middle, read, refused⟩
    · obtain ⟨same, digits, long, rfl⟩ := Request.read_eq_error_iff.mp refused
      exact ⟨same, .number long⟩
    by_cases asks : ∃ request : Request, request.IsReadFrom stdin
    · obtain ⟨request, asked⟩ := asks
      obtain ⟨rfl, rfl⟩ :=
        EStateM.Result.ok.inj ((Request.read_of_isReadFrom asked host files).symm.trans read)
      dsimp only at refused
      split at refused
      · rename_i shell
        obtain ⟨same, refuses⟩ := answer_eq_error_iff.mp refused
        exact ⟨same, .settings asked shell refuses⟩
      · contradiction
    · rcases Request.read_of_not_isReadFrom (not_exists.mp asks) host files with
        ⟨after, unread⟩ | ⟨digits, unread⟩
      · obtain ⟨rfl, rfl⟩ := EStateM.Result.ok.inj (unread.symm.trans read)
        contradiction
      · rw [unread] at read
        contradiction
  · rintro ⟨rfl, fails⟩
    cases fails with
    | number long =>
        exact Effect.bind_of_error (Request.read_eq_error_iff.mpr ⟨rfl, _, long, rfl⟩)
    | settings asked shell refuses =>
        rw [respond_of_isReadFrom asked, if_pos shell]
        exact answer_eq_error_iff.mpr ⟨rfl, refuses⟩

/-- The files once an error has been logged. -/
def filesAfter (host : Host) (error : InputError) (files : FileSystem) : FileSystem :=
  host.log "ERROR" ("Unhandled exception: " ++ error.kind ++ ": " ++ error.message) files

/-- The answer to an error under given settings. -/
def recovery (config : Config) (error : InputError) : HookRun :=
  match Response.ofAction? ("trash-guard error: " ++ error.kind) config.onError with
  | none => .silent
  | some response => .answering response.toJson []

theorem out_recovery_ne_nil_iff {config : Config} :
    (recovery config error).out ≠ [] ↔ config.onError ≠ .allow := by
  unfold recovery
  cases config.onError with
  | allow => simp [Response.ofAction?, HookRun.silent]
  | ask => simp [Response.ofAction?, HookRun.answering]
  | deny => simp [Response.ofAction?, HookRun.answering]

theorem recover_of_load {config : Config} (loads : Config.load host files = .ok config later) :
    ∃ last, recover host error files = .ok (recovery config error) last := by
  rw [recover, Effect.bind_of_ok loads, recovery]
  cases Response.ofAction? ("trash-guard error: " ++ error.kind) config.onError with
  | none => exact ⟨_, rfl⟩
  | some response => exact ⟨_, rfl⟩

theorem run_eq_recover (fails : Fails host stdin files error) :
    (Gate.run host stdin files).1 =
      match recover host error (filesAfter host error files) with
      | .ok outcome _ => outcome
      | .error _ _ => .silent := by
  rw [Gate.run, respond_eq_error_iff.mpr ⟨rfl, fails⟩, filesAfter]
  dsimp only
  cases recover host error _ with
  | ok outcome after => rfl
  | error cause after => rfl

/-- An error is answered under the settings that are loaded once it has been logged. -/
theorem run_of_fails {config : Config} (fails : Fails host stdin files error)
    (loads : Config.load host (filesAfter host error files) = .ok config later) :
    (Gate.run host stdin files).1 = recovery config error := by
  obtain ⟨last, recovers⟩ := @recover_of_load host _ later error config loads
  rw [run_eq_recover fails, recovers]

/-- Settings that cannot be loaded ask for no answer to an error. -/
theorem run_of_fails_of_load_error {cause : InputError} (fails : Fails host stdin files error)
    (refused : Config.load host (filesAfter host error files) = .error cause later) :
    (Gate.run host stdin files).1 = .silent := by
  have recovers : recover host error (filesAfter host error files) = .error cause later :=
    Effect.bind_of_error refused
  rw [run_eq_recover fails, recovers]

/-! ## Dry runs -/

/-- A dry run answers no request. -/
theorem outcome_of_isDryRun {environment : Environment} (dry : isDryRun environment = true)
    (config : Config) (request : Request) : outcome environment config request = .silent := by
  unfold outcome
  split
  · rfl
  · rw [if_pos dry]

/-- A dry run that no error ends prints nothing. -/
theorem run_of_forall_not_fails (dry : isDryRun host.environment = true)
    (works : ∀ error, ¬Fails host stdin files error) :
    (Gate.run host stdin files).1 = .silent := by
  cases responds : respond host stdin files with
  | error error later => exact absurd (respond_eq_error_iff.mp responds).2 (works error)
  | ok run later =>
      rw [Gate.run, responds]
      dsimp only
      rcases silent_or_outcome responds with silent | ⟨request, config, -, rfl⟩
      · exact silent
      · exact outcome_of_isDryRun dry config request

end Gate

theorem Filter.run_of_isDryRun (dry : isDryRun host.environment = true) (stdin : Text)
    (files : FileSystem) : (Filter.run host stdin files).1 = .silent := by
  cases loads : Config.load host files with
  | error error later => exact run_of_load_error loads stdin
  | ok config later =>
      apply silent_of_not_acts loads
      rintro ⟨request, -, acts⟩
      exact Bool.false_ne_true (acts.2.2.symm.trans dry)

/-- In a dry run the filter prints nothing, and neither does the gate, with one exception: an error
of the gate itself is answered where the settings that are loaded behind it ask for an answer. -/
theorem dryRun_prints_failures_only (dry : isDryRun host.environment = true) :
    (Filter.run host stdin files).1 = .silent ∧
    ((Gate.run host stdin files).1.out ≠ [] ↔
      ∃ (error : InputError) (config : Config) (after : FileSystem),
        Gate.Fails host stdin files error ∧
        Config.load host (Gate.filesAfter host error files) = .ok config after ∧
        config.onError ≠ .allow) ∧
    (∀ (error : InputError) (config : Config) (after : FileSystem),
      Gate.Fails host stdin files error →
      Config.load host (Gate.filesAfter host error files) = .ok config after →
        (Gate.run host stdin files).1 = Gate.recovery config error) := by
  refine ⟨Filter.run_of_isDryRun dry stdin files, ?_, fun _ _ _ fails loads =>
    Gate.run_of_fails fails loads⟩
  constructor
  · intro printed
    by_cases fails : ∃ error, Gate.Fails host stdin files error
    · obtain ⟨error, fails⟩ := fails
      cases loads : Config.load host (Gate.filesAfter host error files) with
      | error cause after =>
          rw [Gate.run_of_fails_of_load_error fails loads] at printed
          exact absurd rfl printed
      | ok config after =>
          refine ⟨error, config, after, fails, loads, fun allows => ?_⟩
          rw [Gate.run_of_fails fails loads] at printed
          exact Gate.out_recovery_ne_nil_iff.mp printed allows
    · rw [Gate.run_of_forall_not_fails dry (not_exists.mp fails)] at printed
      exact absurd rfl printed
  · rintro ⟨error, config, after, fails, loads, answers⟩
    rw [Gate.run_of_fails fails loads]
    exact Gate.out_recovery_ne_nil_iff.mpr answers

/-- A machine in a dry run, with a project. -/
def dryHost : Host :=
  ⟨[(dryRunVariable, "1"), (projectVariable, "/p")], Platform.linux, "2024-01-01T00:00:00"⟩

/-- A settings file by which an error is answered with a refusal. -/
def denyingSettings : FileSystem :=
  Config.settingsFiles (Utf8.encode "\x7b\"hookBehavior\": \x7b\"onError\": \"deny\"\x7d\x7d")

/-- A whole number that is one digit too long. -/
def longNumber : Text := List.replicate (digitLimit + 1) '1'

theorem parse_longNumber : Json.parse longNumber = .error (.oversized longNumber.length) := by
  have one : ∀ c ∈ longNumber, c = '1' := fun c mem => (List.mem_replicate.mp mem).2
  have isWhole : Json.IsWhole longNumber := by
    refine ⟨by simp [longNumber], fun c mem => one c mem ▸ rfl, fun zero => ?_⟩
    exact absurd (one '0' (List.mem_of_head? zero)) (by decide)
  exact Json.parse_of_oversized isWhole (by simp [longNumber])

theorem dryRun_answers_longNumber : isDryRun dryHost.environment = true ∧
    (Filter.run dryHost longNumber denyingSettings).1 = .silent ∧
    (Gate.run dryHost longNumber denyingSettings).1 =
      .answering (Response.deny "trash-guard error: ValueError").toJson [] := by
  have dry : isDryRun dryHost.environment = true := by decide
  obtain ⟨silent, -, answers⟩ := @dryRun_prints_failures_only _ longNumber denyingSettings dry
  have denies : (match Config.load dryHost
      (Gate.filesAfter dryHost (.oversized longNumber.length) denyingSettings) with
      | .ok config _ => decide (config.onError = .deny)
      | .error _ _ => false) = true := by decide +kernel
  refine ⟨dry, silent, ?_⟩
  cases loads : Config.load dryHost
      (Gate.filesAfter dryHost (.oversized longNumber.length) denyingSettings) with
  | ok config after =>
      rw [loads] at denies
      rw [answers _ config after (.number parse_longNumber) loads, Gate.recovery,
        of_decide_eq_true denies]
      rfl
  | error error after =>
      rw [loads] at denies
      exact absurd denies Bool.false_ne_true

/-- A dry run can print: an error is answered as in any other run. -/
theorem dryRun_prints_refusal : isDryRun dryHost.environment = true ∧
    (Gate.run dryHost longNumber denyingSettings).1.out ≠ [] := by
  decide +kernel

end SafeDelete
