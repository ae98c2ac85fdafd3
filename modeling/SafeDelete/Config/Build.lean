/-
Module: SafeDelete.Config.Build
Purpose: The settings from the environment, a settings file and the defaults, key by key.
Main exports: Config.build, Config.ofFile
-/
import SafeDelete.Config.Parse
import SafeDelete.Host.Environment
import SafeDelete.Json.Access

namespace SafeDelete.Config

/-- The value of a key: of its variable where that is not empty, else of the file. -/
def pick (environment : Environment) (file : Json.Fields) (name key : Text) : Json :=
  let value := environment.get name
  if value.isEmpty then (Json.Fields.get? key file).getD .null else .str value

/-- The trash command of the file, if it names one. -/
def fileCommand? (file : Json.Fields) : Option Text :=
  match Json.Fields.get? "trashCommand" file with
  | some (.str text) => if Text.isBlank text then none else some text.trim
  | _ => none

/-- The trash command: of its variable, of the file, or of the platform. -/
def buildTrashCommand (environment : Environment) (file : Json.Fields) (platform : Platform) :
    Text :=
  let named := (environment.get commandVariable).trim
  if named.isEmpty then (fileCommand? file).getD platform.trashCommand else named

/-- The value names an action. -/
def isAction : Option Json → Bool
  | some (.str text) => (Action.named? text).isSome
  | _ => false

/-- The hook behaviour: the fields of the file, with an action after an error that is one. -/
def buildHookBehavior (file : Json.Fields) : Json.Fields :=
  let allow : Json := .str Action.allow.text
  let fields : Json.Fields := [(onErrorKey, allow)]
  let fields :=
    match Json.Fields.get? "hookBehavior" file with
    | some (.obj given) => Json.Fields.setAll fields given
    | _ => fields
  if isAction (Json.Fields.get? onErrorKey fields) then fields
  else Json.Fields.set onErrorKey allow fields

/-- The settings from an environment and the fields of a file. -/
def build (environment : Environment) (file : Json.Fields) (platform : Platform) : Config :=
  { mode := Mode.ofJson (pick environment file modeVariable "mode")
    level := Level.ofJson (pick environment file levelVariable "level")
    allowlist := parseAllowlist (pick environment file allowlistVariable "allowlist")
    trashCommand := buildTrashCommand environment file platform
    hookBehavior := buildHookBehavior file }

/-- The settings from an environment and the contents of a file, which count as no fields where
they are empty or zero. -/
def ofFile (environment : Environment) (file : Json) (platform : Platform) :
    Except Json.Misuse Config := do
  let fields ← if file.isFalsy then pure [] else file.fields
  return build environment fields platform

end SafeDelete.Config
