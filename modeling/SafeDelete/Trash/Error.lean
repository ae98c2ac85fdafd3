/-
Module: SafeDelete.Trash.Error
Purpose: Why something could not be moved to the trash.
Main exports: TrashError, TrashError.message, TrashError.endsRun, MoveError
-/
import SafeDelete.Files.Errno
import SafeDelete.Host.Environment

namespace SafeDelete

/-- Why an entry could not be moved. -/
inductive MoveError where
  | system (error : SystemError)
  /-- A directory would have gone below itself. -/
  | intoItself (source destination : Text)
  deriving Repr, DecidableEq

/-- The wording of a failed move. -/
def MoveError.message : MoveError → Text
  | .system error => error.message
  | .intoItself source destination =>
    "Cannot move a directory '" ++ source ++ "' into itself '" ++ destination ++ "'."

/-- Why something could not be moved to the trash. -/
inductive TrashError where
  | missing
  | inaccessible (error : SystemError)
  | unsupported (platform : Platform)
  | directory (error : SystemError)
  | info (error : SystemError)
  | move (error : MoveError)
  /-- The path holds a NUL, which no path can. -/
  | nul
  /-- The path is relative to a directory that is gone. -/
  | unplaced (error : SystemError)
  /-- The home directory is named by a tilde, which nothing stands for. -/
  | noHome
  deriving Repr, DecidableEq

/-- The wording of a failed move to the trash. -/
def TrashError.message : TrashError → Text
  | .missing => "no such file or directory"
  | .inaccessible error => "cannot access: " ++ error.message
  | .unsupported platform => "unsupported operating system: " ++ platform
  | .directory error => "cannot create trash directory: " ++ error.message
  | .info error => "cannot create trash info file: " ++ error.message
  | .move error => "cannot move to trash: " ++ error.message
  | .nul => "embedded null byte"
  | .unplaced error => error.message
  | .noHome => "Could not determine home directory."

/-- The error is not about one entry only, and no other path is tried after it. -/
def TrashError.endsRun : TrashError → Bool
  | .nul => true
  | .unplaced _ => true
  | .noHome => true
  | _ => false

end SafeDelete
