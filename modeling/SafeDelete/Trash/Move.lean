/-
Module: SafeDelete.Trash.Move
Purpose: Moving one entry to the trash.
Main exports: moveToTrash, relocateEntry
-/
import SafeDelete.Files.Absolute
import SafeDelete.Files.Effect
import SafeDelete.Trash.Directory
import SafeDelete.Trash.FreeName
import SafeDelete.Trash.Info

namespace SafeDelete

/-! ## Moving an entry -/

/-- A path read as a directory that other paths may be below. -/
def asDirectory (path : Text) : Text :=
  if Text.endsWith "/" path then path else path ++ "/"

/-- The inner path is the outer one or below it, by the texts of both made absolute. -/
def isWithin (files : FileSystem) (outer inner : Text) : Except SystemError Bool := do
  let outer ← files.absolute outer
  let inner ← files.absolute inner
  return Text.startsWith (asDirectory outer.toText) (asDirectory inner.toText)

/-- Move a directory, which is at the given place, by a copy.  It never goes below itself by name.
By way of a link it may: a copy right inside the directory is removed with it, and one further below
meets itself among what is still to be copied, until its paths are too long. -/
def moveDirectoryByCopy (source destination : Text) (place : Place) : Effect MoveError Unit :=
  fun files =>
    match isWithin files source destination with
    | .error error => .error (.system error) files
    | .ok true => .error (.intoItself source destination) files
    | .ok false =>
      match files.resolve .kept destination with
      | .error errno => .error (.system (.on destination errno)) files
      | .ok (.present _ _) => .error (.system (.on destination .exists)) files
      | .ok (.absent directory _) =>
        if directory = place ∧ place ≠ [] then .ok () (files.eraseTree place)
        else .error (.system (.on destination .nameTooLong)) files

/-- Move an entry that cannot be renamed: a link is made anew, and a directory or file copied,
before the old one is removed. -/
def moveByCopy (source destination : Text) : Effect MoveError Unit := fun files =>
  match files.lstat source with
  | .error errno => .error (.system (.on source errno)) files
  | .ok (place, .link target) =>
    match files.symlink target destination with
    | .error errno => .error (.system (.between target destination errno)) files
    | .ok files => .ok () (files.erase place)
  | .ok (place, .directory _) => moveDirectoryByCopy source destination place files
  | .ok (place, .file mode content) =>
    match files.create destination (.file mode content) with
    | .error errno => .error (.system (.on destination errno)) files
    | .ok files => .ok () (files.erase place)

/-- Move an entry to a free path. -/
def relocateEntry (source destination : Text) : Effect MoveError Unit := fun files =>
  match files.rename source destination with
  | .ok files => .ok () files
  | .error _ => moveByCopy source destination files

/-! ## Moving to the trash -/

/-- Permissions of the directories of a trash. -/
def trashMode : Nat := 0o700

/-- Permissions of a record. -/
def infoMode : Nat := 0o600

/-- Make a directory of the trash. -/
def makeTrashDirectory (path : PathName) : Effect TrashError Unit := fun files =>
  match Effect.makeDirectories path trashMode files with
  | .ok () files => .ok () files
  | .error error files => .error (.directory error) files

/-- A free path in a directory for an entry with the given name. -/
def freePathIn (directory : PathName) (name : Text) (files : FileSystem) : PathName :=
  match freeName files (directory.below name) with
  | .ok path => path
  | .error fault => fault.path

/-- Move an entry, a refusal being one of the trash. -/
def moveEntry (source : Text) (destination : PathName) : Effect TrashError Unit := fun files =>
  match relocateEntry source destination.toText files with
  | .ok () files => .ok () files
  | .error error files => .error (.move error) files

/-- Move an entry into the one directory of a trash. -/
def moveToHome (source : PathName) (directory : PathName) : Effect TrashError PathName := do
  makeTrashDirectory directory
  let destination := freePathIn directory source.name (← get)
  moveEntry source.toText destination
  return destination

/-- Write a record. -/
def writeInfo (path : Text) (info : TrashInfo) : Effect TrashError Unit := do
  Effect.attempt (·.write path (Utf8.encode info.text)) fun errno => .info (.on path errno)
  Effect.attempt (·.chmod path infoMode) fun errno => .info (.on path errno)

/-- Remove a record, if it is there. -/
def removeInfo (path : Text) (files : FileSystem) : FileSystem :=
  ((files.unlink path).toOption).getD files

/-- Move an entry into a trash with records: the record is written first, and removed again where
the move fails. -/
def moveToPaired (host : Host) (source : PathName) (directory : PathName) :
    Effect TrashError PathName := do
  let entries := directory.below "files"
  let records := directory.below "info"
  makeTrashDirectory entries
  makeTrashDirectory records
  let destination := freePathIn entries source.name (← get)
  let record := (records.below (destination.name ++ TrashInfo.suffix)).toText
  writeInfo record ⟨source.toText, host.time⟩
  fun files =>
    match moveEntry source.toText destination files with
    | .ok () files => .ok destination files
    | .error error files => .error error (removeInfo record files)

/-- Check that a path can be moved to the trash, and make it absolute.  A link at its end stays a
link. -/
def locate (path : Text) : Effect TrashError PathName := fun files =>
  match files.absolute path with
  | .error error => .error (.unplaced error) files
  | .ok source =>
    if source.toText.contains '\x00' then .error .nul files
    else
      match files.lstat source.toText with
      | .ok _ => .ok source files
      | .error .noEntry => .error .missing files
      | .error errno => .error (.inaccessible (.on source.toText errno)) files

/-- Move the entry at a path to the trash of the platform, and tell where it is now. -/
def moveToTrash (host : Host) (path : Text) : Effect TrashError PathName := do
  let source ← locate path
  match Trash.find host.environment host.platform with
  | .error error => throw error
  | .ok ⟨.home, directory⟩ => moveToHome source directory
  | .ok ⟨.paired, directory⟩ => moveToPaired host source directory

end SafeDelete
