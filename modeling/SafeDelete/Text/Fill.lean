/-
Module: SafeDelete.Text.Fill
Purpose: Words filled into lines of a width.
Main exports: Fill.lines, Fill.indented
-/
import SafeDelete.Text.Basic

namespace SafeDelete.Fill

/-- Fill words into lines.  A word joins the line before it where that line, with the columns before
it, stays within the width; otherwise it begins a line, before which `indent` columns are left.  A
word that is too long has a line of its own. -/
def linesFrom (width indent before : Nat) (line : List Text) : List Text → List Text
  | [] => if line.isEmpty then [] else [Text.unwords line]
  | word :: rest =>
    let longer := line ++ [word]
    if line.isEmpty ∨ before + (Text.unwords longer).length ≤ width then
      linesFrom width indent before longer rest
    else Text.unwords line :: linesFrom width indent indent [word] rest

/-- Words as lines, with `before` columns left before the first one and `indent` before the
others. -/
def lines (width indent before : Nat) (words : List Text) : List Text :=
  linesFrom width indent before [] words

/-- So many spaces. -/
def spaces (count : Nat) : Text :=
  List.replicate count ' '

/-- Lines under one another, with spaces before all of them but the first. -/
def indented (indent : Nat) (lines : List Text) : Text :=
  Text.join ('\n' :: spaces indent) lines

end SafeDelete.Fill
