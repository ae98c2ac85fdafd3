/-
Module: SafeDelete.Trash.Directory
Purpose: Where the trash of a user is.
Main exports: TrashLayout, Trash, Trash.find
-/
import SafeDelete.Host.Basic
import SafeDelete.Trash.Error

namespace SafeDelete

/-- How a trash is laid out. -/
inductive TrashLayout where
  /-- One directory in the home directory. -/
  | home
  /-- A directory for the entries and one for records about them. -/
  | paired
  deriving Repr, DecidableEq

/-- The layout that goes with a platform. -/
def trashLayout? (platform : Platform) : Option TrashLayout :=
  if platform = Platform.darwin then some .home
  else if Text.startsWith Platform.linux platform then some .paired
  else none

/-- The variable that names the home directory. -/
def homeVariable : Text := "HOME"

/-- The variable that names the directory for data of the user. -/
def dataVariable : Text := "XDG_DATA_HOME"

/-- The home directory where the environment names none. -/
def defaultHome : Text := "/root"

/-- The home directory, unless it is named by a tilde. -/
def homeDirectory? (environment : Environment) : Option PathName :=
  let named := (environment.get? homeVariable).getD defaultHome
  let trimmed := (named.reverse.dropWhile (· = '/')).reverse
  if Text.startsWith "~" trimmed then none
  else some (PathName.ofText (if trimmed.isEmpty then "/" else trimmed))

/-- The directory for data of the user; without a name for it, one in the home directory. -/
def dataDirectory? (environment : Environment) : Option PathName :=
  let named := environment.get dataVariable
  if named.isEmpty then
    (homeDirectory? environment).map fun home => (home.below ".local").below "share"
  else some (PathName.ofText named)

/-- The directory of a trash. -/
def TrashLayout.directory? (environment : Environment) : TrashLayout → Option PathName
  | .home => (homeDirectory? environment).map (·.below ".Trash")
  | .paired => (dataDirectory? environment).map (·.below "Trash")

/-- A trash: where it is, and how it is laid out. -/
structure Trash where
  layout : TrashLayout
  directory : PathName
  deriving Repr, DecidableEq

/-- The trash on a platform. -/
def Trash.find (environment : Environment) (platform : Platform) : Except TrashError Trash :=
  match trashLayout? platform with
  | none => .error (.unsupported platform)
  | some layout =>
    match layout.directory? environment with
    | none => .error .noHome
    | some directory => .ok ⟨layout, directory⟩

end SafeDelete
