/-
Module: SafeDelete.Hook.Run
Purpose: What a hook leaves behind: its exit code and what it printed.
Main exports: HookRun, HookRun.silent, HookRun.answering
-/
import SafeDelete.Json.Printer

namespace SafeDelete

/-- The outcome of a hook. -/
structure HookRun where
  exitCode : Nat
  out : Text
  err : Text
  deriving Repr, DecidableEq

namespace HookRun

/-- Nothing is printed, so the command runs as it is. -/
def silent : HookRun := ⟨0, [], []⟩

/-- One value is printed on a line of its own, with remarks for the user beside it. -/
def answering (value : Json) (remarks : Text) : HookRun :=
  ⟨0, value.render ++ "\n", remarks⟩

end HookRun

end SafeDelete
