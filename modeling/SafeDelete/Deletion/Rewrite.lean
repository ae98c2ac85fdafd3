/-
Module: SafeDelete.Deletion.Rewrite
Purpose: Command lines with every delete replaced by a trash command.
Main exports: Deletion.rewriteSegment, rewriteToTrash, wordsBeforeTrash?
-/
import SafeDelete.Deletion.Match

namespace SafeDelete

open Shell

namespace Deletion

/-- What stands before the trash command in a rewritten segment.  A direct delete is put together
anew from its parts. -/
def leading (deletion : Deletion) (words : List Text) : List Text :=
  match deletion.form with
  | .direct => [deletion.before.environment, deletion.before.privilege].filter (!·.isEmpty)
  | _ => words.take deletion.index

/-- What stands after the trash command in a rewritten segment.  Where the delete is not direct,
only the flags right behind it are dropped. -/
def trailing (deletion : Deletion) (words : List Text) : List Text :=
  match deletion.form with
  | .direct =>
    let terminator := if deletion.operands.endOfOptions then [Operands.terminator] else []
    terminator ++ deletion.operands.targets
  | _ => (words.drop (deletion.index + 1)).dropWhile isDeleteFlag

/-- The words of a segment with its delete replaced. -/
def replacement (deletion : Deletion) (words : List Text) (trash : Text) : List Text :=
  deletion.leading words ++ [trash] ++ deletion.trailing words

/-- The text of a segment with its delete replaced. -/
def rewriteSegment (segment : Segment) (deletion : Deletion) (trash : Text) : Text :=
  Text.unwords (deletion.replacement (segment.tokens.map Token.text) trash)

end Deletion

/-- A segment as it stands in the rewritten line: its delete replaced, if it has one. -/
def rewrittenPart (trash : Text) (segment : Segment) : Text :=
  match Deletion.inSegment? segment with
  | some deletion => deletion.rewriteSegment segment trash
  | none => segment.raw

/-- What stands between two commands. -/
def Shell.Operator.between : Operator → Text
  | .sequence => "; "
  | operator => " " ++ operator.text ++ " "

/-- What stands before a segment that is not the first. -/
def Shell.Segment.lead (segment : Segment) : Text :=
  match segment.operator with
  | some operator => operator.between
  | none => "  "

/-- The segments of a command line put together again, each delete replaced. -/
def rewriteSegments (trash : Text) : List Segment → Text
  | [] => []
  | first :: rest =>
    rewrittenPart trash first ++
      rest.flatMap fun segment => segment.lead ++ rewrittenPart trash segment

/-- A command line with every delete replaced; without a delete, the line as it is. -/
def rewriteToTrash (command trash : Text) : Text :=
  let segments := segments command
  if (Deletion.inSegments segments).isEmpty then command else rewriteSegments trash segments

/-- How many parts stand before the first trash command of a rewritten line, in its segment; none
where nothing is rewritten. -/
def wordsBeforeTrash? (command : Text) : Option Nat :=
  (segments command).findSome? fun segment =>
    (Deletion.inSegment? segment).map fun deletion =>
      (deletion.leading (segment.tokens.map Token.text)).length

end SafeDelete
