/-
Module: SafeDelete.Files.PathName
Purpose: Paths as they are written: joining, naming and making absolute, without a look at any file.
Main exports: PathName, PathName.ofText, PathName.toText, PathName.absolute, PathName.numbered
-/
import SafeDelete.Text.Numeral

namespace SafeDelete

/-- Where a path starts.  Two leading slashes, and no more, are a start of their own. -/
inductive PathRoot where
  | relative
  | slash
  | twoSlashes
  deriving Repr, DecidableEq

namespace PathRoot

/-- The start of a text. -/
def ofText : Text → PathRoot
  | '/' :: '/' :: '/' :: _ => .slash
  | '/' :: '/' :: _ => .twoSlashes
  | '/' :: _ => .slash
  | _ => .relative

/-- How a start is written. -/
def text : PathRoot → Text
  | .relative => ""
  | .slash => "/"
  | .twoSlashes => "//"

end PathRoot

/-- A path: its start and its parts, none of them empty or a single dot. -/
structure PathName where
  root : PathRoot
  parts : List Text
  deriving Repr, DecidableEq

namespace PathName

/-- The part that stands for the directory above. -/
def above : Text := ".."

/-- Read a path; empty parts and single dots are dropped. -/
def ofText (text : Text) : PathName :=
  ⟨PathRoot.ofText text, (text.splitOn '/').filter fun part => part ≠ [] && part ≠ "."⟩

/-- Write a path; one without parts is a single dot. -/
def toText (path : PathName) : Text :=
  match path.root, path.parts with
  | .relative, [] => "."
  | start, parts => start.text ++ Text.join "/" parts

/-- One path after another; an absolute one starts afresh. -/
def join (path next : PathName) : PathName :=
  match next.root with
  | .relative => ⟨path.root, path.parts ++ next.parts⟩
  | _ => next

/-- A path below another one. -/
def below (path : PathName) (text : Text) : PathName :=
  path.join (ofText text)

/-- The last part, empty where there is none. -/
def name (path : PathName) : Text :=
  path.parts.getLastD []

/-- The path without its last part. -/
def parent (path : PathName) : PathName :=
  ⟨path.root, path.parts.dropLast⟩

/-- The path with another last part. -/
def withName (path : PathName) (name : Text) : PathName :=
  ⟨path.root, path.parts.dropLast ++ [name]⟩

/-- Drop what the parts for the directory above cancel; above the root there is nothing. -/
def collapse (parts : List Text) : List Text :=
  parts.foldl (fun kept part => if part = above then kept.dropLast else kept ++ [part]) []

/-- A path made absolute from the parts of the working directory, by its text alone. -/
def absolute (workingDirectory : List Text) (text : Text) : PathName :=
  let path := ofText text
  match path.root with
  | .relative => ⟨.slash, collapse (workingDirectory ++ path.parts)⟩
  | start => ⟨start, collapse path.parts⟩

/-! ## Names -/

/-- A name cut before its last dot, unless the dot is its first or last character. -/
def splitName (name : Text) : Text × Text :=
  let suffix := (name.reverse.takeWhile (· ≠ '.')).reverse
  let stem := name.take (name.length - suffix.length - 1)
  if suffix.isEmpty ∨ stem.isEmpty then (name, []) else (stem, '.' :: suffix)

/-- The name with a number before its suffix. -/
def numberedName (name : Text) (number : Nat) : Text :=
  let (stem, suffix) := splitName name
  stem ++ " " ++ decimal number ++ suffix

/-- The path with a number in its name. -/
def numbered (path : PathName) (number : Nat) : PathName :=
  path.withName (numberedName path.name number)

end PathName

end SafeDelete
