/-
Module: SafeDelete.Host.Environment
Purpose: Environment variables, the platform, and the trash command that goes with it.
Main exports: Environment, Platform, isDryRun, Platform.trashCommand
-/
import SafeDelete.Text.Blank

namespace SafeDelete

/-- The values of the environment variables that are set. -/
abbrev Environment := List (Text × Text)

namespace Environment

/-- The value of a variable. -/
def get? (environment : Environment) (name : Text) : Option Text :=
  (environment.find? fun entry => entry.1 = name).map Prod.snd

/-- The value of a variable, empty where it is not set. -/
def get (environment : Environment) (name : Text) : Text :=
  (environment.get? name).getD []

/-- The environment without a variable. -/
def unset (environment : Environment) (name : Text) : Environment :=
  environment.filter fun entry => entry.1 ≠ name

/-- The environment with a variable set. -/
def set (environment : Environment) (name value : Text) : Environment :=
  (name, value) :: environment.unset name

end Environment

/-- The variable that asks for a dry run. -/
def dryRunVariable : Text := "CLAUDE_HOOK_DRY_RUN"

/-- The variable that names the mode. -/
def modeVariable : Text := "TRASH_GUARD_MODE"

/-- The variable that names the level. -/
def levelVariable : Text := "TRASH_GUARD_LEVEL"

/-- The variable that lists the commands to let through. -/
def allowlistVariable : Text := "TRASH_GUARD_ALLOWLIST"

/-- The variable that names the trash command. -/
def commandVariable : Text := "TRASH_GUARD_COMMAND"

/-- The variable that names the project directory. -/
def projectVariable : Text := "CLAUDE_PROJECT_DIR"

/-- A value that asks for a dry run, in letters of either case. -/
def asksForDryRun (value : Text) : Bool :=
  let lower := value.map Char.toLower
  lower == "1" || lower == "true" || lower == "yes"

/-- In a dry run the hooks log what they would do and print nothing. -/
def isDryRun (environment : Environment) : Bool :=
  asksForDryRun (environment.get dryRunVariable)

/-- The name of the operating system. -/
abbrev Platform := Text

namespace Platform

/-- The platform that keeps its trash in the home directory. -/
def darwin : Platform := "darwin"

/-- The platform whose desktops bring a trash command along. -/
def linux : Platform := "linux"

/-- The trash command that a platform has by itself. -/
def trashCommand (platform : Platform) : Text :=
  if platform = linux then "gio trash" else "trash"

end Platform

/-- The trash command of this machine: the one the environment names, else that of the platform. -/
def detectTrashCommand (environment : Environment) (platform : Platform) : Text :=
  let named := (environment.get commandVariable).trim
  if named.isEmpty then platform.trashCommand else named

end SafeDelete
