/-
Module: SafeDelete.Deletion.Match
Purpose: Finding the deletes of a command line.
Main exports: Deletion, Deletion.Form, Deletion.inSegment?, Deletion.inSegments, Deletion.inCommand
-/
import SafeDelete.Deletion.Flag
import SafeDelete.Shell.Prefix
import SafeDelete.Shell.Segment

namespace SafeDelete

open Shell

/-- The name of the delete command. -/
def deleteCommand : Text := "rm"

/-- What a delete is given: its operands as written, and whether a bare double dash ended the
options. -/
structure Operands where
  targets : List Text
  endOfOptions : Bool
  deriving Repr, DecidableEq

namespace Operands

/-- The word that ends the options. -/
def terminator : Text := "--"

/-- Operands of the words after the delete command.  Its flags are left out, up to the first bare
double dash; every word after that one is an operand. -/
def ofWords : List Text → Operands
  | [] => ⟨[], false⟩
  | word :: rest =>
    if word = terminator then ⟨rest, true⟩
    else
      let later := ofWords rest
      if isDeleteFlag word then later else ⟨word :: later.targets, later.endOfOptions⟩

end Operands

namespace Deletion

/-- How a delete is called. -/
inductive Form where
  /-- As the program of the command. -/
  | direct
  /-- By xargs, for every line of its input. -/
  | xargs
  /-- By find, for every file it finds. -/
  | findExec
  deriving Repr, DecidableEq

end Deletion

/-- A delete in a segment of a command line. -/
structure Deletion where
  form : Deletion.Form
  /-- The index of the delete command among the words of the segment. -/
  index : Nat
  /-- The words before a direct delete; the other forms keep theirs in place. -/
  before : Prefix
  operands : Operands
  deriving Repr, DecidableEq

namespace Deletion

/-- Where the delete command stands behind an action of find, counted from `index` on. -/
def findAction? (index : Nat) : List Text → Option Nat
  | action :: program :: rest =>
    if (action = "-exec" ∨ action = "-execdir") ∧ program = deleteCommand then some (index + 1)
    else findAction? (index + 1) (program :: rest)
  | _ => none

/-- The delete in the words of one segment. -/
def inWords? (words : List Text) : Option Deletion :=
  match Prefix.split words with
  | (_, []) => none
  | (before, program :: arguments) =>
    if program = "xargs" then
      let options := arguments.takeWhile (Text.startsWith "-")
      match arguments.dropWhile (Text.startsWith "-") with
      | [] => none
      | word :: rest =>
        if word = deleteCommand then
          some ⟨.xargs, before.length + 1 + options.length, .empty, .ofWords rest⟩
        else none
    else if program = "find" then
      (findAction? (before.length + 1) arguments).map fun index =>
        ⟨.findExec, index, .empty, ⟨[], false⟩⟩
    else if program = deleteCommand then
      let operands := Operands.ofWords arguments
      if operands.targets.isEmpty then none
      else some ⟨.direct, before.length, before, operands⟩
    else none

/-- The delete in one segment.  A direct delete of nothing is none; the other forms get their
operands elsewhere. -/
def inSegment? (segment : Segment) : Option Deletion :=
  inWords? (segment.tokens.map Token.text)

/-- The deletes in segments that are counted from `index` on, each with the index of its segment. -/
def inSegmentsFrom (index : Nat) : List Segment → List (Nat × Deletion)
  | [] => []
  | segment :: rest =>
    ((inSegment? segment).map (index, ·)).toList ++ inSegmentsFrom (index + 1) rest

/-- The deletes in the segments of a command line, at most one in each. -/
def inSegments (segments : List Segment) : List (Nat × Deletion) :=
  inSegmentsFrom 0 segments

/-- The deletes in a command line, in order, each with the index of its segment. -/
def inCommand (command : Text) : List (Nat × Deletion) :=
  inSegments (segments command)

end Deletion

end SafeDelete
