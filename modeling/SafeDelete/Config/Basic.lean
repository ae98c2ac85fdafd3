/-
Module: SafeDelete.Config.Basic
Purpose: The settings of the hooks.
Main exports: Mode, Action, Config
-/
import SafeDelete.Json.Value
import SafeDelete.Policy.Verdict

namespace SafeDelete

/-- What happens to a dangerous delete. -/
inductive Mode where
  | deny
  | rewrite
  deriving Repr, DecidableEq

/-- How a mode is written. -/
def Mode.text : Mode → Text
  | .deny => "deny"
  | .rewrite => "rewrite"

/-- What a hook answers after an error of its own. -/
inductive Action where
  | allow
  | ask
  | deny
  deriving Repr, DecidableEq

/-- How an action is written. -/
def Action.text : Action → Text
  | .allow => "allow"
  | .ask => "ask"
  | .deny => "deny"

/-- The action that a text names. -/
def Action.named? (text : Text) : Option Action :=
  [Action.allow, .ask, .deny].find? fun action => action.text = text

/-- The settings of the hooks. -/
structure Config where
  mode : Mode
  level : Level
  /-- Patterns of commands to let through. -/
  allowlist : List Text
  /-- What replaces the delete command. -/
  trashCommand : Text
  /-- What hooks do in special cases, with any fields that only the host knows. -/
  hookBehavior : Json.Fields

namespace Config

/-- The field of the hook behaviour that names the action after an error. -/
def onErrorKey : Text := "onError"

/-- What a hook answers after an error of its own. -/
def onError (config : Config) : Action :=
  match Json.Fields.get? onErrorKey config.hookBehavior with
  | some (.str text) => (Action.named? text).getD .allow
  | _ => .allow

/-- The settings as an object. -/
def toJson (config : Config) : Json :=
  .obj [
    ("mode", .str config.mode.text),
    ("level", .str config.level.text),
    ("allowlist", .arr (config.allowlist.map .str)),
    ("trashCommand", .str config.trashCommand),
    ("hookBehavior", .obj config.hookBehavior)]

end Config

end SafeDelete
