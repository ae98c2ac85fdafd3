/-
Module: SafeDelete.Files.Absolute
Purpose: Paths made absolute from the directory that a process works in.
Main exports: FileSystem.absolute
-/
import SafeDelete.Files.Errno
import SafeDelete.Files.FileSystem
import SafeDelete.Files.PathName

namespace SafeDelete.FileSystem

/-- A path made absolute by its text alone.  A relative one needs a working directory that is still
there. -/
def absolute (files : FileSystem) (text : Text) : Except SystemError PathName :=
  if (PathName.ofText text).root = .relative ∧ files.workingDirectory.isRemoved then
    .error .noWorkingDirectory
  else .ok (PathName.absolute files.workingDirectory text)

end SafeDelete.FileSystem
