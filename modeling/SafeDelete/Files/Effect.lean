/-
Module: SafeDelete.Files.Effect
Purpose: Programs that work on files and may fail; what was done before a failure stays done.
Main exports: Effect, Effect.attempt, Effect.makeDirectories
-/
import SafeDelete.Files.Operations
import SafeDelete.Files.PathName

namespace SafeDelete

/-- A program over the files of a machine, with errors of one kind. -/
abbrev Effect (ε α : Type) := EStateM ε FileSystem α

namespace Effect

/-- Do one operation; a refusal becomes an error. -/
def attempt (operation : FileSystem → Except Errno FileSystem) (wrap : Errno → ε) :
    Effect ε Unit :=
  fun files =>
    match operation files with
    | .ok files => .ok () files
    | .error errno => .error (wrap errno) files

/-- A directory that was refused will do if it is there already. -/
def settleDirectory (path : Text) (refusal : Errno) : Effect SystemError Unit :=
  fun files =>
    match files.leadsTo? Entry.isDirectory path with
    | .ok true => .ok () files
    | .ok false => .error (.on path refusal) files
    | .error errno => .error (.on path errno) files

/-- Make one directory. -/
def makeDirectory (path : Text) (mode : Nat) : Effect SystemError Unit :=
  fun files =>
    match files.mkdir path mode with
    | .ok files => .ok () files
    | .error .noEntry => .error (.on path .noEntry) files
    | .error refusal => settleDirectory path refusal files

/-- The permissions of the directories on the way. -/
def wayMode : Nat := 0o777

/-- Make a directory under the given start, and those on the way to it that are missing.  The parts
are given from the last one on. -/
def makeDirectoriesFrom (root : PathRoot) (mode : Nat) : List Text → Effect SystemError Unit
  | [] => makeDirectory (PathName.toText ⟨root, []⟩) mode
  | part :: before => fun files =>
    let path := PathName.toText ⟨root, (part :: before).reverse⟩
    match files.mkdir path mode with
    | .ok files => .ok () files
    | .error .noEntry =>
      match makeDirectoriesFrom root wayMode before files with
      | .ok () files => makeDirectory path mode files
      | .error error files => .error error files
    | .error refusal => settleDirectory path refusal files

/-- Make a directory, and those on the way to it that are missing.  It is tried first; where the
way is missing, the way is made and it is tried again. -/
def makeDirectories (path : PathName) (mode : Nat) : Effect SystemError Unit :=
  makeDirectoriesFrom path.root mode path.parts.reverse

end Effect

end SafeDelete
