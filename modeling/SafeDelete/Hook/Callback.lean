/-
Module: SafeDelete.Hook.Callback
Purpose: The policy as callbacks of a host that hands over its own settings and output.
Main exports: CallbackError, permissionAsk, beforeExecution, rewriteNotice
-/
import SafeDelete.Config.Build
import SafeDelete.Deletion.Rewrite
import SafeDelete.Json.Printer
import SafeDelete.Policy.AllowList

namespace SafeDelete

/-- A delete that was refused. -/
structure BlockedCommand where
  command : Text
  reason : Text
  suggestion : Text
  deriving Repr, DecidableEq

/-- The wording of a refusal. -/
def BlockedCommand.message (blocked : BlockedCommand) : Text :=
  "[trash-guard] Blocked dangerous command: " ++ blocked.command ++ "\nReason: " ++
    blocked.reason ++ "\nSuggestion: " ++ blocked.suggestion

/-- Why a callback ended without doing its work. -/
inductive CallbackError where
  | blocked (refusal : BlockedCommand)
  /-- The host handed over a value of another kind than it should be. -/
  | misuse (fault : Json.Misuse)
  | allowList (fault : AllowListError)
  | missingSetting (key : Text)
  deriving Repr, DecidableEq

/-- The wording of a failed callback. -/
def CallbackError.message : CallbackError → Text
  | .blocked refusal => refusal.message
  | .misuse fault => fault.message
  | .allowList fault => fault.message
  | .missingSetting key => key.quoted

/-- What comes of looking into a value of the host. -/
def ofHost (found : Except Json.Misuse α) : Except CallbackError α :=
  found.mapError .misuse

/-- A setting of the host, which has to be there. -/
def setting (key : Text) : Json → Except CallbackError Json
  | .obj fields =>
    match Json.Fields.get? key fields with
    | some value => .ok value
    | none => .error (.missingSetting key)
  | settings => .error (.misuse (.lookup settings.kind))

/-- The field holds this text. -/
def hasText (key text : Text) (fields : Json.Fields) : Bool :=
  match Json.Fields.get? key fields with
  | some (.str found) => found == text
  | _ => false

/-- A command that is not empty. -/
def commandField? (fields : Json.Fields) : Option Text :=
  match Json.Fields.get? "command" fields with
  | some (.str command) => if command.isEmpty then none else some command
  | _ => none

/-- The danger of a command that no pattern lets through. -/
def dangerUnder (settings : Json) (command : Text) : Except CallbackError (Option Danger) := do
  let allowlist ← setting "allowlist" settings
  if ← (AllowList.admits allowlist command).mapError .allowList then return none
  let level ← setting "level" settings
  return judge command (Level.ofJson level)

/-- The permission callback: the output as it is to be, with a status where the command is
refused. -/
def permissionAsk (input output settings : Json) : Except CallbackError Json := do
  let mode ← setting "mode" settings
  if Mode.ofJson mode ≠ .deny then return output
  let input ← ofHost input.fields
  if !hasText "type" "bash" input then return output
  let metadata := (Json.Fields.get? "metadata" input).getD .null
  let metadata ← if metadata.isFalsy then pure [] else ofHost metadata.fields
  match commandField? metadata with
  | none => return output
  | some command =>
    match ← dangerUnder settings command with
    | none => return output
    | some _ => ofHost (output.assign "status" (.str "deny"))

/-- The note that a command was rewritten. -/
def rewriteNotice (command rewritten trash : Text) : Text :=
  "[trash-guard] Rewrote '" ++ command ++ "' to '" ++ rewritten ++ "'. Please use '" ++ trash ++
    " <path>' instead of 'rm -rf' for safe deletion."

/-- A rewritten command that first says so. -/
def withNotice (command rewritten trash : Text) : Text :=
  "echo " ++ Json.renderString (rewriteNotice command rewritten trash) ++ " && " ++ rewritten

/-- A dangerous command replaced by its rewritten form, if that differs.  A trash command that is no
text does not matter where nothing is rewritten. -/
def replaceCommand? (command : Text) : Json → Except CallbackError (Option Text)
  | .str trash =>
    let rewritten := rewriteToTrash command trash
    .ok (if rewritten = command then none else some (withNotice command rewritten trash))
  | trash =>
    match wordsBeforeTrash? command with
    | none => .ok none
    | some index => .error (.misuse (.joining index trash.kind))

/-- The callback before a command runs: the output as it is to be, the command in it replaced where
it is dangerous; in deny mode a dangerous command is an error. -/
def beforeExecution (input output settings : Json) : Except CallbackError Json := do
  let input ← ofHost input.fields
  if !hasText "tool" "bash" input then return output
  let fields ← ofHost output.fields
  match Json.Fields.get? "args" fields with
  | some (.obj arguments) =>
    match commandField? arguments with
    | none => return output
    | some command =>
      match ← dangerUnder settings command with
      | none => return output
      | some danger =>
        let trash ← setting "trashCommand" settings
        let mode ← setting "mode" settings
        if Mode.ofJson mode = .deny then
          throw (.blocked ⟨command, danger.reason, danger.suggestion⟩)
        match ← replaceCommand? command trash with
        | none => return output
        | some replaced =>
          let arguments := Json.Fields.set "command" (.str replaced) arguments
          return .obj (Json.Fields.set "args" (.obj arguments) fields)
  | _ => return output

end SafeDelete
