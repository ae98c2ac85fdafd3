/-
Module: SafeDelete.Hook.InPlace
Purpose: The callbacks as their host calls them: they write into its output, and what was written
  before a failure stays written.
Main exports: Callback, Callback.permission, Callback.execution
-/
import SafeDelete.Hook.Callback

namespace SafeDelete

/-- A program over the output of a host, which may fail. -/
abbrev Callback (α : Type) := EStateM CallbackError Json α

namespace Callback

/-- Go on with what was found. -/
def expect (found : Except CallbackError α) : Callback α := fun output =>
  match found with
  | .ok value => .ok value output
  | .error error => .error error output

/-- Give a key of the output a value. -/
def write (key : Text) (value : Json) : Callback Unit := fun output =>
  match output.assign key value with
  | .ok written => .ok () written
  | .error fault => .error (.misuse fault) output

/-- The permission callback: a status is written where the command is refused. -/
def permission (input settings : Json) : Callback Unit := do
  let mode ← expect (setting "mode" settings)
  if Mode.ofJson mode ≠ .deny then return
  let input ← expect (ofHost input.fields)
  if !hasText "type" "bash" input then return
  let metadata := (Json.Fields.get? "metadata" input).getD .null
  let metadata ← expect (if metadata.isFalsy then .ok [] else ofHost metadata.fields)
  match commandField? metadata with
  | none => return
  | some command =>
    match ← expect (dangerUnder settings command) with
    | none => return
    | some _ => write "status" (.str "deny")

/-- The callback before a command runs: the command in the output is overwritten where it is
dangerous; in deny mode a dangerous command is an error. -/
def execution (input settings : Json) : Callback Unit := do
  let input ← expect (ofHost input.fields)
  if !hasText "tool" "bash" input then return
  let output ← get
  let fields ← expect (ofHost output.fields)
  match Json.Fields.get? "args" fields with
  | some (.obj arguments) =>
    match commandField? arguments with
    | none => return
    | some command =>
      match ← expect (dangerUnder settings command) with
      | none => return
      | some danger =>
        let trash ← expect (setting "trashCommand" settings)
        let mode ← expect (setting "mode" settings)
        if Mode.ofJson mode = .deny then
          throw (.blocked ⟨command, danger.reason, danger.suggestion⟩)
        match ← expect (replaceCommand? command trash) with
        | none => return
        | some replaced =>
          write "args" (.obj (Json.Fields.set "command" (.str replaced) arguments))
  | _ => return

end Callback

end SafeDelete
