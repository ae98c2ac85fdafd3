/-
Module: SafeDelete.Files.FileSystem
Purpose: The files, links and directories of a machine, and where in it a process works.
Main exports: Place, Entry, FileSystem, FileSystem.get?, FileSystem.insert, FileSystem.eraseTree,
  FileSystem.relocate
-/
import SafeDelete.Text.Basic

namespace SafeDelete

/-- A place in the tree of directories: the names from the root down to it. -/
abbrev Place := List Text

/-- What can be at a place. -/
inductive Entry where
  | file (mode : Nat) (content : Bytes)
  | link (target : Text)
  | directory (mode : Nat)
  deriving Repr, DecidableEq

namespace Entry

/-- The entry is a directory. -/
def isDirectory : Entry → Bool
  | .directory _ => true
  | _ => false

end Entry

namespace Place

/-- What stands for the name of a removed directory.  No entry has it. -/
def removedName : Text := []

/-- The place is a directory that was removed while a process works in it. -/
def isRemoved (place : Place) : Bool :=
  place.getLast? == some removedName

/-- What becomes of a place when everything from `top` down is removed.  A process that works there
stays in the removed directory, as far below the one above `top` as it was before. -/
def whenRemoved (place top : Place) : Place :=
  if top.isPrefixOf place then
    top.dropLast ++ List.replicate (place.length + 1 - top.length) removedName
  else place

/-- Where a place is once `source` has become `destination`. -/
def whenMoved (place source destination : Place) : Place :=
  if source.isPrefixOf place then destination ++ place.drop source.length else place

end Place

/-- The entries of a machine by their places, and the directory a process works in.  The root is a
directory without being listed. -/
structure FileSystem where
  entries : List (Place × Entry)
  workingDirectory : Place
  deriving Repr

namespace FileSystem

/-- The entry at a place. -/
def get? (files : FileSystem) : Place → Option Entry
  | [] => some (.directory 0o755)
  | place => (files.entries.find? fun entry => entry.1 = place).map Prod.snd

/-- The entries without the one at a place. -/
def without (place : Place) (entries : List (Place × Entry)) : List (Place × Entry) :=
  entries.filter fun entry => entry.1 ≠ place

/-- The files with an entry at a place. -/
def insert (files : FileSystem) (place : Place) (entry : Entry) : FileSystem :=
  { files with entries := without place files.entries ++ [(place, entry)] }

/-- The files without the entry at a place. -/
def erase (files : FileSystem) (place : Place) : FileSystem :=
  { files with entries := without place files.entries }

/-- The files without the entry at a place and everything below it. -/
def eraseTree (files : FileSystem) (place : Place) : FileSystem :=
  { entries := files.entries.filter fun entry => !place.isPrefixOf entry.1
    workingDirectory := files.workingDirectory.whenRemoved place }

/-- The entries below a place. -/
def below (files : FileSystem) (place : Place) : List (Place × Entry) :=
  files.entries.filter fun entry => place.isPrefixOf entry.1 && entry.1 ≠ place

/-- The files with the entry at `source`, and everything below it, at `destination`, in place of
what was there.  A process that works there moves along. -/
def relocate (files : FileSystem) (source destination : Place) : FileSystem :=
  let files := files.eraseTree destination
  { entries := files.entries.map fun entry => (entry.1.whenMoved source destination, entry.2)
    workingDirectory := files.workingDirectory.whenMoved source destination }

end FileSystem

end SafeDelete
