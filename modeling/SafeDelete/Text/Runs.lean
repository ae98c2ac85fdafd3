/-
Module: SafeDelete.Text.Runs
Purpose: Marks of code points, one run after the other.
Main exports: Runs, Runs.ofLines, Runs.markAt
-/
import SafeDelete.Text.Basic

namespace SafeDelete

/-- Stretches of code points from the first one on, each with a mark and its length. -/
abbrev Runs := List (Text × Nat)

namespace Runs

/-- Read a mark and a length, and then the rest: a length is in digits, a mark is not. -/
def readFrom (mark : Text) (length : Nat) : Text → Runs
  | [] => [(mark, length)]
  | c :: rest =>
    if c.isDigit then readFrom mark (10 * length + (c.toNat - '0'.toNat)) rest
    else if length = 0 then readFrom (mark ++ [c]) 0 rest
    else (mark, length) :: readFrom [c] 0 rest

/-- Read the lines of a table. -/
def ofLines (lines : List String) : Runs :=
  readFrom [] 0 (lines.flatMap String.toList)

/-- The mark of a code point. -/
def markAt : Runs → Nat → Text
  | [], _ => []
  | (mark, length) :: rest, n => if n < length then mark else markAt rest (n - length)

end Runs

end SafeDelete
