/-
Module: SafeDelete.Hook.Filter
Purpose: The hook that turns every delete of a command into a move to the trash.
Main exports: Filter.run
-/
import SafeDelete.Deletion.Rewrite
import SafeDelete.Hook.Request
import SafeDelete.Hook.Run
import SafeDelete.Policy.AllowList

namespace SafeDelete.Filter

/-- Remarks for the user about a rewritten command. -/
def remarks (command rewritten trash : Text) : Text :=
  "REWRITE: Detected rm command. Rewriting to use '" ++ trash ++ "' for safer deletion.\n" ++
    "Rewritten: " ++ command ++ " -> " ++ rewritten ++ "\n"

/-- Answer a request under given settings: with the rewritten command, if it deletes and is not let
through. -/
def answerUnder (host : Host) (config : Config) (request : Request) :
    Effect InputError HookRun := do
  let command := request.command
  if isAllowlisted command config.allowlist then
    Config.note host "ALLOW" ("Allowlisted: " ++ command.preview)
    return .silent
  if (Deletion.inCommand command).isEmpty then return .silent
  let rewritten := rewriteToTrash command config.trashCommand
  Config.note host "REWRITE" (command.preview ++ " -> " ++ rewritten.preview)
  if isDryRun host.environment then
    Config.note host "DRY-RUN" "Would REWRITE"
    return .silent
  return .answering (request.withCommand rewritten) (remarks command rewritten config.trashCommand)

/-- Answer a request under the settings of the project. -/
def answer (host : Host) (request : Request) : Effect InputError HookRun := do
  let config ← Config.load host
  answerUnder host config request

/-- Read a request and answer it. -/
def respond (host : Host) (stdin : Text) : Effect InputError HookRun := do
  match ← Request.read host stdin with
  | none => return .silent
  | some request => answer host request

/-- Run the hook; an error is logged, and the command runs as it is. -/
def run (host : Host) (stdin : Text) (files : FileSystem) : HookRun × FileSystem :=
  match respond host stdin files with
  | .ok outcome files => (outcome, files)
  | .error error files =>
    (.silent, host.log "ERROR" ("Unhandled exception: " ++ error.kind ++ ": " ++ error.message)
      files)

end SafeDelete.Filter
