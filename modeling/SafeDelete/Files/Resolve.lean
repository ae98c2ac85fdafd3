/-
Module: SafeDelete.Files.Resolve
Purpose: Which place a path leads to, links followed on the way.
Main exports: FileSystem.Ending, FileSystem.Target, FileSystem.resolve, FileSystem.lstat,
  FileSystem.stat
-/
import SafeDelete.Files.Errno
import SafeDelete.Files.FileSystem
import SafeDelete.Text.Utf8

namespace SafeDelete.FileSystem

/-!
A path is followed name by name from the root or the working directory.  A link on the way is
replaced by the names of its target; the number of links on one way is bounded, so a circle of
links is an error and not an endless way.  What becomes of a link at the very end is up to the
operation.  A removed directory still knows itself and the one above, and holds nothing else.
-/

/-- Octets that a name may have. -/
def nameLimit : Nat := 255

/-- Octets that a path must stay below. -/
def pathLimit : Nat := 4096

/-- Links that may be followed on one way. -/
def linkLimit : Nat := 40

/-- The name by which a directory knows itself. -/
def itself : Text := "."

/-- The name by which a directory knows the one above. -/
def above : Text := ".."

/-- The end of names that are followed by a slash: an empty name, which asks for a directory. -/
def slashEnd : List Text := [[]]

/-- The names of a path. -/
def names (text : Text) : List Text :=
  let parts := (text.splitOn '/').filter fun part => part ≠ []
  if Text.endsWith "/" text ∧ parts ≠ [] then parts ++ slashEnd else parts

/-- What the end of a path is asked for. -/
inductive Ending where
  /-- Whatever is there; a link is not followed. -/
  | kept
  /-- What a link leads to. -/
  | followed
  /-- A file to write, a link followed; what is written as a directory is refused without a look. -/
  | written
  deriving Repr, DecidableEq

/-- Where a path leads. -/
inductive Target where
  /-- To an entry. -/
  | present (place : Place) (entry : Entry)
  /-- To a free name in a directory. -/
  | absent (directory : Place) (name : Text)
  deriving Repr, DecidableEq

/-- How far names lead before the next link. -/
inductive Progress where
  | arrived (target : Target)
  /-- On to the names of a link's target and those that are left. -/
  | linked (start : Place) (rest : List Text)
  deriving Repr, DecidableEq

/-- The directory from which a path is followed. -/
def start (here : Place) (text : Text) : Place :=
  if Text.startsWith "/" text then [] else here

/-- Follow names from a directory up to the first link that is to be followed. -/
def descend (files : FileSystem) (ending : Ending) (here : Place) :
    List Text → Except Errno Progress
  | [] => .ok (.arrived (.present here ((files.get? here).getD (.directory 0o755))))
  | name :: rest =>
    if name.isEmpty ∨ name = itself then descend files ending here rest
    else if name = above then descend files ending here.dropLast rest
    else if ending = .written ∧ rest = slashEnd then .error .isDirectory
    else if here.isRemoved then .error .noEntry
    else if nameLimit < (Utf8.encode name).length then .error .nameTooLong
    else
      let place := here ++ [name]
      match files.get? place, rest with
      | none, [] => .ok (.arrived (.absent here name))
      | none, _ => .error .noEntry
      | some (.link target), [] =>
        if ending = .kept then .ok (.arrived (.present place (.link target)))
        else .ok (.linked (start here target) (names target))
      | some (.link target), rest => .ok (.linked (start here target) (names target ++ rest))
      | some entry, [] => .ok (.arrived (.present place entry))
      | some (.directory _), _ => descend files ending place rest
      | some (.file _ _), _ => .error .notDirectory

/-- Follow names from a directory, at most `links` links among them. -/
def follow (files : FileSystem) (ending : Ending) :
    (links : Nat) → Place → List Text → Except Errno Target
  | links, here, names =>
    match descend files ending here names with
    | .error errno => .error errno
    | .ok (.arrived target) => .ok target
    | .ok (.linked start rest) =>
      match links with
      | 0 => .error .tooManyLinks
      | links + 1 => follow files ending links start rest

/-- Where a path leads. -/
def resolve (files : FileSystem) (ending : Ending) (path : Text) : Except Errno Target :=
  if path.isEmpty then .error .noEntry
  else if pathLimit ≤ (Utf8.encode path).length then .error .nameTooLong
  else follow files ending linkLimit (start files.workingDirectory path) (names path)

/-- The entry that a path leads to, and its place. -/
def find (files : FileSystem) (ending : Ending) (path : Text) : Except Errno (Place × Entry) :=
  match resolve files ending path with
  | .ok (.present place entry) => .ok (place, entry)
  | .ok (.absent _ _) => .error .noEntry
  | .error errno => .error errno

/-- The entry at a path, a link at its end taken as a link. -/
def lstat (files : FileSystem) (path : Text) : Except Errno (Place × Entry) :=
  files.find .kept path

/-- The entry at a path, links followed. -/
def stat (files : FileSystem) (path : Text) : Except Errno (Place × Entry) :=
  files.find .followed path

/-- There is an entry at a path, be it a link to nothing. -/
def isTaken (files : FileSystem) (path : Text) : Bool :=
  (files.lstat path).isOk

/-- A path leads to a directory. -/
def isDirectory (files : FileSystem) (path : Text) : Bool :=
  match files.stat path with
  | .ok (_, entry) => entry.isDirectory
  | .error _ => false

/-- Refusals that mean no more than that nothing is there. -/
def meansAbsent : Errno → Bool
  | .noEntry => true
  | .notDirectory => true
  | .tooManyLinks => true
  | _ => false

/-- Whether a path leads to an entry of a kind; other refusals than its absence are errors. -/
def leadsTo? (files : FileSystem) (kind : Entry → Bool) (path : Text) : Except Errno Bool :=
  match files.stat path with
  | .ok (_, entry) => .ok (kind entry)
  | .error errno => if meansAbsent errno then .ok false else .error errno

/-- Whether a path leads to an entry. -/
def exists? (files : FileSystem) (path : Text) : Except Errno Bool :=
  files.leadsTo? (fun _ => true) path

end SafeDelete.FileSystem
