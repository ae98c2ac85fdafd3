/-
Module: SafeDelete.Files.Errno
Purpose: Why the operating system refuses an operation, and how that is reported.
Main exports: Errno, SystemError, SystemError.message
-/
import SafeDelete.Text.Quoted

namespace SafeDelete

/-- The refusals of the operating system. -/
inductive Errno where
  | noEntry
  | busy
  | exists
  | notDirectory
  | isDirectory
  | invalid
  | nameTooLong
  | notEmpty
  | tooManyLinks
  deriving Repr, DecidableEq

namespace Errno

/-- The number of a refusal. -/
def number : Errno → Nat
  | .noEntry => 2
  | .busy => 16
  | .exists => 17
  | .notDirectory => 20
  | .isDirectory => 21
  | .invalid => 22
  | .nameTooLong => 36
  | .notEmpty => 39
  | .tooManyLinks => 40

/-- The wording of a refusal. -/
def text : Errno → Text
  | .noEntry => "No such file or directory"
  | .busy => "Device or resource busy"
  | .exists => "File exists"
  | .notDirectory => "Not a directory"
  | .isDirectory => "Is a directory"
  | .invalid => "Invalid argument"
  | .nameTooLong => "File name too long"
  | .notEmpty => "Directory not empty"
  | .tooManyLinks => "Too many levels of symbolic links"

end Errno

/-- A refused operation: why, and on which paths, from the first one to the other where there are
two. -/
structure SystemError where
  errno : Errno
  paths : List Text
  deriving Repr, DecidableEq

namespace SystemError

/-- A refusal that concerns one path. -/
def on (path : Text) (errno : Errno) : SystemError :=
  ⟨errno, [path]⟩

/-- A refusal on the way from one path to another. -/
def between (source destination : Text) (errno : Errno) : SystemError :=
  ⟨errno, [source, destination]⟩

/-- The directory that a process works in is gone. -/
def noWorkingDirectory : SystemError :=
  ⟨.noEntry, []⟩

/-- The paths of a refusal as they are reported. -/
def pathsText (error : SystemError) : Text :=
  if error.paths.isEmpty then []
  else ": " ++ Text.join " -> " (error.paths.map Text.quoted)

/-- The wording of a refused operation. -/
def message (error : SystemError) : Text :=
  "[Errno " ++ decimal error.errno.number ++ "] " ++ error.errno.text ++ error.pathsText

end SystemError

end SafeDelete
