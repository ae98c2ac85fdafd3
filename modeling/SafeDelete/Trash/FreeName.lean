/-
Module: SafeDelete.Trash.FreeName
Purpose: A path at which nothing is yet, found by numbering a name.
Main exports: freeName, NoName
-/
import SafeDelete.Files.PathName
import SafeDelete.Files.Resolve
import SafeDelete.Text.Quoted

namespace SafeDelete

/-- A path without a name, which cannot be numbered. -/
structure NoName where
  path : PathName
  deriving Repr, DecidableEq

/-- The wording of a missing name. -/
def NoName.message (fault : NoName) : Text :=
  "PosixPath(" ++ fault.path.toText.quoted ++ ") has an empty name"

/-- The first of some numbers, counted up from the given one, whose path is free; the last one where
none of them is. -/
def firstFree (files : FileSystem) (path : PathName) : (tries number : Nat) → PathName
  | 0, number => path.numbered number
  | tries + 1, number =>
    if files.isTaken (path.numbered number).toText then firstFree files path tries (number + 1)
    else path.numbered number

/-- A path at which nothing is: the path itself, or the same with the least number in its name.
There are more numbers to try than entries that could be in the way. -/
def freeName (files : FileSystem) (path : PathName) : Except NoName PathName :=
  if !files.isTaken path.toText then .ok path
  else if path.name.isEmpty then .error ⟨path⟩
  else .ok (firstFree files path (files.entries.length + 1) 1)

end SafeDelete
