/-
Module: SafeDelete.Host.Log
Purpose: The log of a project, which never grows far beyond its limit and never stops a tool.
Main exports: Host.log, Host.logLine, rotateLog, logLimit
-/
import SafeDelete.Files.Effect
import SafeDelete.Host.Basic

namespace SafeDelete

/-- Octets that a log reaches before a new one is begun. -/
def logLimit : Nat := 1000000

/-- Whether a log has reached its limit. -/
def isLogFull (files : FileSystem) (log : Text) : Bool :=
  match files.stat log with
  | .ok (_, .file _ content) => logLimit ≤ content.length
  | _ => false

/-- The files without an old log; nothing where it cannot be removed. -/
def dropOldLog? (files : FileSystem) (old : Text) : Option FileSystem :=
  match files.exists? old with
  | .error _ => none
  | .ok false => some files
  | .ok true => (files.unlink old).toOption

/-- Make a full log the old one.  What cannot be done is left. -/
def rotateLog (files : FileSystem) (log old : Text) : FileSystem :=
  if isLogFull files log then
    match dropOldLog? files old with
    | none => files
    | some files => ((files.rename log old).toOption).getD files
  else files

namespace Host

/-- A line of the log. -/
def logLine (host : Host) (level message : Text) : Text :=
  let mark : Text := if isDryRun host.environment then "[DRY-RUN] " else ""
  host.time ++ " [" ++ level ++ "] " ++ mark ++ message ++ "\n"

/-- Permissions asked for on the way to the log. -/
def logDirectoryMode : Nat := 0o777

/-- Add a line to the log of the project.  Without a project there is no log, and what cannot be
written is not. -/
def log (host : Host) (level message : Text) (files : FileSystem) : FileSystem :=
  match host.logPath? files with
  | none => files
  | some path =>
    match Effect.makeDirectories path.parent logDirectoryMode files with
    | .error _ files => files
    | .ok () files =>
      let files := rotateLog files path.toText (path.withName oldLogName).toText
      ((files.append path.toText (Utf8.encode (host.logLine level message))).toOption).getD
        files

end Host

end SafeDelete
