/-
Module: SafeDelete.Files.Operations
Purpose: What a process can do to files: read, write, make, remove and rename.
Main exports: FileSystem.read, FileSystem.write, FileSystem.append, FileSystem.mkdir,
  FileSystem.unlink, FileSystem.symlink, FileSystem.chmod, FileSystem.rename
-/
import SafeDelete.Files.Resolve

namespace SafeDelete.FileSystem

/-- The permissions of a new file. -/
def newFileMode : Nat := 0o644

/-- Bits that a new directory is not given. -/
def maskedBits : Nat := 0o022

/-- The permissions of a new directory when the given ones are asked for. -/
def directoryMode (asked : Nat) : Nat :=
  asked - (asked &&& maskedBits)

/-- The content of a file. -/
def read (files : FileSystem) (path : Text) : Except Errno Bytes :=
  match files.stat path with
  | .error errno => .error errno
  | .ok (_, .file _ content) => .ok content
  | .ok _ => .error .isDirectory

/-- Give a file the content that `change` makes of its old one; a file that is not there yet is
made. -/
def changeFile (files : FileSystem) (path : Text) (change : Bytes → Bytes) :
    Except Errno FileSystem :=
  match files.resolve .written path with
  | .error errno => .error errno
  | .ok (.absent directory name) =>
    .ok (files.insert (directory ++ [name]) (.file newFileMode (change [])))
  | .ok (.present place (.file mode content)) =>
    .ok (files.insert place (.file mode (change content)))
  | .ok (.present _ _) => .error .isDirectory

/-- Replace the content of a file. -/
def write (files : FileSystem) (path : Text) (content : Bytes) : Except Errno FileSystem :=
  files.changeFile path fun _ => content

/-- Add to the end of a file. -/
def append (files : FileSystem) (path : Text) (content : Bytes) : Except Errno FileSystem :=
  files.changeFile path fun old => old ++ content

/-- Set the permissions of an entry. -/
def chmod (files : FileSystem) (path : Text) (mode : Nat) : Except Errno FileSystem :=
  match files.stat path with
  | .error errno => .error errno
  | .ok (place, .file _ content) => .ok (files.insert place (.file mode content))
  | .ok (place, .directory _) => .ok (files.insert place (.directory mode))
  | .ok (_, .link _) => .ok files

/-- Put an entry at a free name. -/
def create (files : FileSystem) (path : Text) (entry : Entry) : Except Errno FileSystem :=
  match files.resolve .kept path with
  | .error errno => .error errno
  | .ok (.present _ _) => .error .exists
  | .ok (.absent directory name) => .ok (files.insert (directory ++ [name]) entry)

/-- Make a directory. -/
def mkdir (files : FileSystem) (path : Text) (mode : Nat) : Except Errno FileSystem :=
  files.create path (.directory (directoryMode mode))

/-- Make a link.  Its target need not be there, but has to be a path. -/
def symlink (files : FileSystem) (target path : Text) : Except Errno FileSystem :=
  if target.isEmpty then .error .noEntry
  else if pathLimit ≤ (Utf8.encode target).length then .error .nameTooLong
  else files.create path (.link target)

/-- Remove a file or link. -/
def unlink (files : FileSystem) (path : Text) : Except Errno FileSystem :=
  match files.lstat path with
  | .error errno => .error errno
  | .ok (_, .directory _) => .error .isDirectory
  | .ok (place, _) => .ok (files.erase place)

/-- Whether an entry may take the place of another. -/
def mayReplace (files : FileSystem) (source : Entry) (place : Place) : Entry → Except Errno Unit
  | .directory _ =>
    if !source.isDirectory then .error .isDirectory
    else if (files.below place).isEmpty then .ok ()
    else .error .notEmpty
  | _ => if source.isDirectory then .error .notDirectory else .ok ()

/-- Give an entry, with everything below it, another place.  A directory cannot go below itself. -/
def rename (files : FileSystem) (source destination : Text) : Except Errno FileSystem :=
  match files.lstat source with
  | .error errno => .error errno
  | .ok ([], _) => .error .busy
  | .ok (place, entry) =>
    match files.resolve .kept destination with
    | .error errno => .error errno
    | .ok (.absent directory name) =>
      if place.isPrefixOf directory then .error .invalid
      else .ok (files.relocate place (directory ++ [name]))
    | .ok (.present [] _) => .error .busy
    | .ok (.present other replaced) =>
      if other = place then .ok files
      else if place.isPrefixOf other then .error .invalid
      else if other.isPrefixOf place then .error .notEmpty
      else
        match files.mayReplace entry other replaced with
        | .error errno => .error errno
        | .ok () => .ok (files.relocate place other)

end SafeDelete.FileSystem
