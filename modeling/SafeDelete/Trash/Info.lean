/-
Module: SafeDelete.Trash.Info
Purpose: The record that is kept about an entry of the trash.
Main exports: TrashInfo, TrashInfo.text
-/
import SafeDelete.Text.Percent

namespace SafeDelete

/-- Where an entry of the trash came from, and when. -/
structure TrashInfo where
  path : Text
  deletionDate : Text
  deriving Repr, DecidableEq

namespace TrashInfo

/-- What follows the name of an entry in the name of its record. -/
def suffix : Text := ".trashinfo"

/-- The text of a record. -/
def text (info : TrashInfo) : Text :=
  "[Trash Info]\nPath=" ++ Percent.encode info.path ++ "\nDeletionDate=" ++ info.deletionDate ++
    "\n"

end TrashInfo

end SafeDelete
