/-
Module: SafeDelete.Hook.Gate
Purpose: The hook that refuses or rewrites dangerous deletes, as the settings say.
Main exports: Gate.run
-/
import SafeDelete.Deletion.Rewrite
import SafeDelete.Hook.Request
import SafeDelete.Hook.Response
import SafeDelete.Hook.Run
import SafeDelete.Policy.AllowList

namespace SafeDelete.Gate

/-- The tool whose commands are judged. -/
def tool : Text := "Bash"

/-- Refuse a dangerous command. -/
def deny (host : Host) (command : Text) (danger : Danger) : Effect InputError HookRun := do
  Config.note host "BLOCK" (danger.reason ++ ": " ++ command.preview)
  if isDryRun host.environment then
    Config.note host "DRY-RUN" "Would DENY"
    return .silent
  return .answering (Response.deny (danger.reason ++ ". " ++ danger.suggestion)).toJson []

/-- Have a dangerous command replaced. -/
def rewrite (host : Host) (request : Request) (danger : Danger) (rewritten : Text) :
    Effect InputError HookRun := do
  Config.note host "REWRITE" (request.command.preview ++ " -> " ++ rewritten.preview)
  if isDryRun host.environment then
    Config.note host "DRY-RUN" "Would REWRITE"
    return .silent
  let reason := danger.reason ++ "; running '" ++ rewritten ++ "' instead"
  return .answering (Response.rewrite (request.inputWith rewritten) reason).toJson []

/-- Answer a request under given settings: a dangerous command that is not let through is refused in
deny mode, and where rewriting would not change it. -/
def answerUnder (host : Host) (config : Config) (request : Request) :
    Effect InputError HookRun := do
  let command := request.command
  if isAllowlisted command config.allowlist then
    Config.note host "ALLOW" ("Allowlisted: " ++ command.preview)
    return .silent
  match judge command config.level with
  | none => return .silent
  | some danger =>
    let rewritten := rewriteToTrash command config.trashCommand
    if config.mode = .deny ∨ rewritten = command then deny host command danger
    else rewrite host request danger rewritten

/-- Answer a request under the settings of the project. -/
def answer (host : Host) (request : Request) : Effect InputError HookRun := do
  let config ← Config.load host
  answerUnder host config request

/-- Read a request and answer it. -/
def respond (host : Host) (stdin : Text) : Effect InputError HookRun := do
  match ← Request.read host stdin with
  | none => return .silent
  | some request => if request.isFor tool then answer host request else return .silent

/-- Answer an error in the way the settings ask for; settings that cannot be loaded ask for
nothing. -/
def recover (host : Host) (error : InputError) : Effect InputError HookRun := do
  let config ← Config.load host
  match Response.ofAction? ("trash-guard error: " ++ error.kind) config.onError with
  | none => return .silent
  | some response => return .answering response.toJson []

/-- Run the hook; an error is logged and answered in the way the settings ask for. -/
def run (host : Host) (stdin : Text) (files : FileSystem) : HookRun × FileSystem :=
  match respond host stdin files with
  | .ok outcome files => (outcome, files)
  | .error error files =>
    let message := "Unhandled exception: " ++ error.kind ++ ": " ++ error.message
    match recover host error (host.log "ERROR" message files) with
    | .ok outcome files => (outcome, files)
    | .error _ files => (.silent, files)

end SafeDelete.Gate
