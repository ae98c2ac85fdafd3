/-
Module: SafeDelete.Config.Load
Purpose: The settings of a project, read from its settings file.
Main exports: Config.readSettings, Config.load
-/
import SafeDelete.Config.Build
import SafeDelete.Config.Validate
import SafeDelete.Host.InputError
import SafeDelete.Host.Log
import SafeDelete.Json.Parser
import SafeDelete.Text.Newline

namespace SafeDelete.Config

/-- Add a line to the log. -/
def note (host : Host) (level message : Text) : Effect InputError Unit :=
  fun files => .ok () (host.log level message files)

/-- Say what is wrong with the fields of a settings file. -/
def noteProblems (host : Host) : List Problem → Effect InputError Unit
  | [] => pure ()
  | problem :: rest => do
    note host "WARN" ("Config validation: " ++ problem.message)
    noteProblems host rest

/-- The fields in the octets of the settings file at `path`.  What is not an object counts as no
fields; octets that are no text, and numbers that are too long, are errors. -/
def fieldsOfContent (host : Host) (path : Text) (content : Bytes) :
    Effect InputError Json.Fields :=
  match Utf8.decode content with
  | .error fault => throw (.encoding fault)
  | .ok text =>
    match Json.parse text.unifyNewlines with
    | .error (.oversized digits) => throw (.oversized digits)
    | .error error => do
      note host "ERROR"
        ("Invalid JSON in " ++ path ++ ": " ++ error.message ++ "\n  Using defaults.")
      return []
    | .ok (.obj fields) => do
      noteProblems host (validate fields)
      note host "INFO" ("Loaded config from " ++ path)
      return fields
    | .ok _ => do
      note host "ERROR" (path ++ " must contain a JSON object, using defaults")
      return []

/-- The fields of the settings file at a path; none where there is no file. -/
def readSettingsAt (host : Host) (path : Text) : Effect InputError Json.Fields := fun files =>
  match files.exists? path with
  | .error errno => .error (.system (.on path errno)) files
  | .ok false => .ok [] files
  | .ok true =>
    match files.read path with
    | .ok content => fieldsOfContent host path content files
    | .error errno =>
      let message := "Failed to read " ++ path ++ ": " ++ (SystemError.on path errno).message ++
        "\n  Check file permissions."
      .ok [] (host.log "ERROR" message files)

/-- The fields of the settings file of the project. -/
def readSettings (host : Host) : Effect InputError Json.Fields := fun files =>
  match host.configPath? files with
  | none => .ok [] files
  | some path => readSettingsAt host path.toText files

/-- The settings of the project. -/
def load (host : Host) : Effect InputError Config := do
  let fields ← readSettings host
  return build host.environment fields host.platform

end SafeDelete.Config
