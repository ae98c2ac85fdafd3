/-
Module: SafeDelete.Proofs.Files.Effect
Purpose: How an operation on the files ends, by how its parts do.
Main exports: Effect.bind_eq_ok, Effect.bind_eq_error, Effect.bind_of_ok, Effect.bind_of_error,
  Effect.attempt_eq_ok, Effect.files_of_attempt_error
-/
import SafeDelete.Proofs.Files.Growth

namespace SafeDelete

open FileSystem

namespace Effect

variable {ε α β : Type} {files later : FileSystem}

theorem bind_eq_ok {first : Effect ε α} {next : α → Effect ε β} {result : β} :
    (first >>= next) files = .ok result later ↔
      ∃ value middle, first files = .ok value middle ∧ next value middle = .ok result later := by
  cases ran : first files with
  | ok value middle => simp [bind, EStateM.bind, ran]
  | error error middle => simp [bind, EStateM.bind, ran]

theorem bind_eq_error {first : Effect ε α} {next : α → Effect ε β} {error : ε} :
    (first >>= next) files = .error error later ↔
      first files = .error error later ∨
        ∃ value middle, first files = .ok value middle ∧
          next value middle = .error error later := by
  cases ran : first files with
  | ok value middle => simp [bind, EStateM.bind, ran]
  | error error middle => simp [bind, EStateM.bind, ran]

theorem bind_of_ok {first : Effect ε α} {next : α → Effect ε β} {value : α}
    (ran : first files = .ok value later) : (first >>= next) files = next value later := by
  simp only [bind, EStateM.bind, ran]

theorem bind_of_error {first : Effect ε α} {next : α → Effect ε β} {error : ε}
    (ran : first files = .error error later) : (first >>= next) files = .error error later := by
  simp only [bind, EStateM.bind, ran]

theorem after_bind_of_ok {first : Effect ε α} {next : α → Effect ε β} {value : α}
    (ran : first files = .ok value later) :
    after ((first >>= next) files) = after (next value later) := by
  simp only [bind, EStateM.bind, ran]

theorem after_bind_of_error {first : Effect ε α} {next : α → Effect ε β} {error : ε}
    (ran : first files = .error error later) : after ((first >>= next) files) = later := by
  simp only [bind, EStateM.bind, ran, after]

theorem attempt_eq_ok {operation : FileSystem → Except Errno FileSystem} {wrap : Errno → ε} :
    attempt operation wrap files = .ok () later ↔ operation files = .ok later := by
  unfold attempt
  cases operation files <;> simp

theorem files_of_attempt_error {operation : FileSystem → Except Errno FileSystem}
    {wrap : Errno → ε} {error : ε} (refused : attempt operation wrap files = .error error later) :
    later = files ∧ ∃ errno, operation files = .error errno ∧ error = wrap errno := by
  unfold attempt at refused
  cases ran : operation files with
  | ok files => simp [ran] at refused
  | error errno =>
      rw [ran] at refused
      cases refused
      exact ⟨rfl, errno, rfl, rfl⟩

end Effect

end SafeDelete
