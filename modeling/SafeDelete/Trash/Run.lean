/-
Module: SafeDelete.Trash.Run
Purpose: The trash command as a whole.
Main exports: TrashRun, TrashRequest.reply?, trashPaths, runTrash
-/
import SafeDelete.Host.Columns
import SafeDelete.Text.Quoted
import SafeDelete.Trash.Arguments
import SafeDelete.Trash.Help
import SafeDelete.Trash.Move

namespace SafeDelete

/-- The outcome of the trash command. -/
structure TrashRun where
  exitCode : Nat
  out : Text
  err : Text
  deriving Repr, DecidableEq

namespace TrashRun

/-- Nothing was done yet. -/
def start : TrashRun := ⟨0, [], []⟩

/-- A path was moved. -/
def moved (run : TrashRun) (path : Text) : TrashRun :=
  { run with out := run.out ++ "'" ++ path ++ "' moved to trash\n" }

/-- A path could not be moved. -/
def failed (run : TrashRun) (path : Text) (error : TrashError) : TrashRun :=
  ⟨1, run.out, run.err ++ "trash: " ++ path ++ ": " ++ error.message ++ "\n"⟩

/-- A switch was given an argument. -/
def refused (columns : Nat) (switch : Switch) (argument : Text) : TrashRun :=
  ⟨2, [], trashUsage columns ++ "trash: error: argument " ++ switch.name ++
    ": ignored explicit argument " ++ argument.quoted ++ "\n"⟩

end TrashRun

/-- Move one path, and say how that went, unless the run ends there. -/
def trashPath (host : Host) (run : TrashRun) (path : Text) : Effect TrashError TrashRun :=
  fun files =>
    match moveToTrash host path files with
    | .ok _ files => .ok (run.moved path) files
    | .error error files =>
      if error.endsRun then .error error files else .ok (run.failed path error) files

/-- Move paths one after the other; a path that cannot be moved does not stop the others. -/
def trashPaths (host : Host) : TrashRun → List Text → Effect TrashError TrashRun
  | run, [] => return run
  | run, path :: rest => do
    let run ← trashPath host run path
    trashPaths host run rest

/-- Answer a request that needs no files, if it is one, on a terminal of so many columns. -/
def TrashRequest.reply? (columns : Nat) : TrashRequest → Option TrashRun
  | .help => some ⟨0, trashHelp columns, []⟩
  | .version => some ⟨0, trashVersion, []⟩
  | .refused switch argument => some (.refused columns switch argument)
  | .paths [] => some ⟨1, trashHelp columns, []⟩
  | .paths (_ :: _) => none

/-- The paths that a request is about. -/
def TrashRequest.targets : TrashRequest → List Text
  | .paths chosen => chosen
  | _ => []

/-- Run the trash command with arguments. -/
def runTrash (host : Host) (arguments : List Text) : Effect TrashError TrashRun :=
  let request := TrashRequest.ofArguments arguments
  match request.reply? host.environment.columns with
  | some reply => return reply
  | none => trashPaths host .start request.targets

end SafeDelete
