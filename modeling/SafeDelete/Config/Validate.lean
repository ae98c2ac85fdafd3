/-
Module: SafeDelete.Config.Validate
Purpose: What is wrong with the fields of a settings file.
Main exports: Config.Problem, Config.Problem.message, Config.validate
-/
import SafeDelete.Config.Basic
import SafeDelete.Json.Display
import SafeDelete.Text.Blank

namespace SafeDelete.Config

/-- Something wrong with a settings file. -/
inductive Problem where
  | mode (found : Json)
  | level (found : Json)
  | allowlistItem (index : Nat) (found : Json.Kind)
  | allowlist
  | trashCommand
  | hookBehavior
  | onError (found : Json)

/-- The texts to choose from, each between quotes. -/
def choices (texts : List Text) : Text :=
  "(must be one of (" ++ Text.join ", " (texts.map Text.quoted) ++ "))"

/-- The wording of a problem. -/
def Problem.message : Problem → Text
  | .mode found => "Invalid mode: " ++ found.display ++ " " ++ choices ["deny", "rewrite"]
  | .level found => "Invalid level: " ++ found.display ++ " " ++ choices ["normal", "strict"]
  | .allowlistItem index found =>
    "allowlist[" ++ decimal index ++ "] must be a string, got " ++ found.name
  | .allowlist => "allowlist must be a list or a comma-separated string"
  | .trashCommand => "trashCommand must be a non-empty string"
  | .hookBehavior => "hookBehavior must be an object"
  | .onError found =>
    "Invalid hookBehavior.onError: " ++ found.display ++ " " ++ choices ["allow", "ask", "deny"]

/-- The value is one of the given texts. -/
def isOneOf (texts : List Text) : Json → Bool
  | .str text => texts.contains text
  | _ => false

/-- A field that is there and not null. -/
def given? (key : Text) (fields : Json.Fields) : Option Json :=
  match Json.Fields.get? key fields with
  | some .null => none
  | found => found

/-- Problems of the mode. -/
def validateMode (fields : Json.Fields) : List Problem :=
  match given? "mode" fields with
  | some found => if isOneOf ["deny", "rewrite"] found then [] else [.mode found]
  | none => []

/-- Problems of the level. -/
def validateLevel (fields : Json.Fields) : List Problem :=
  match given? "level" fields with
  | some found => if isOneOf ["normal", "strict"] found then [] else [.level found]
  | none => []

/-- Problems of the items of the allow-list, counted from `index` on. -/
def validateItems (index : Nat) : List Json → List Problem
  | [] => []
  | .str _ :: rest => validateItems (index + 1) rest
  | found :: rest => .allowlistItem index found.kind :: validateItems (index + 1) rest

/-- Problems of the allow-list. -/
def validateAllowlist (fields : Json.Fields) : List Problem :=
  match given? "allowlist" fields with
  | none => []
  | some (.arr items) => validateItems 0 items
  | some (.str _) => []
  | some _ => [.allowlist]

/-- Problems of the trash command. -/
def validateTrashCommand (fields : Json.Fields) : List Problem :=
  match given? "trashCommand" fields with
  | none => []
  | some (.str text) => if Text.isBlank text then [.trashCommand] else []
  | some _ => [.trashCommand]

/-- Problems of the hook behaviour. -/
def validateHookBehavior (fields : Json.Fields) : List Problem :=
  match Json.Fields.get? "hookBehavior" fields with
  | none => []
  | some (.obj behavior) =>
    match Json.Fields.get? onErrorKey behavior with
    | none => []
    | some found => if isOneOf ["allow", "ask", "deny"] found then [] else [.onError found]
  | some _ => [.hookBehavior]

/-- Everything wrong with the fields of a settings file. -/
def validate (fields : Json.Fields) : List Problem :=
  validateMode fields ++ validateLevel fields ++ validateAllowlist fields ++
    validateTrashCommand fields ++ validateHookBehavior fields

end SafeDelete.Config
