/-
Module: SafeDelete.Text.Glob
Purpose: Patterns over whole texts in which a star stands for any run and a question mark for any
  one character; their matching, and their form as an anchored regular expression.
Main exports: Glob, Glob.ofText, Glob.accepts, Glob.toRegex
-/
import SafeDelete.Text.Blank

namespace SafeDelete

/-!
Matching works on rows.  The row of a pattern and a text tells for every ending of the text, the
text itself first and the empty one last, whether the pattern accepts it.  The row of a longer
pattern follows from the row of what comes after its first piece, so that no input makes matching
try a run of characters twice.
-/

/-- A piece of a pattern. -/
inductive GlobPiece where
  /-- Any characters, or none. -/
  | run
  /-- One character, whichever. -/
  | one
  /-- This character. -/
  | exactly (c : Char)
  deriving Repr, DecidableEq

/-- A pattern is the list of its pieces. -/
abbrev Glob := List GlobPiece

namespace Glob

/-- Read a pattern; brackets and backslashes have no special meaning. -/
def ofText (pattern : Text) : Glob :=
  pattern.map fun c => if c = '*' then .run else if c = '?' then .one else .exactly c

/-- The row of the empty pattern: only the empty ending is accepted. -/
def emptyRow (text : Text) : List Bool :=
  text.map (fun _ => false) ++ [true]

/-- Each flag of a row, or any flag after it. -/
def orLater (row : List Bool) : List Bool :=
  row.foldr (fun flag later => (flag || later.headD false) :: later) []

/-- The row of a pattern from the row of what follows its first piece. -/
def rowBefore (text : Text) (piece : GlobPiece) (row : List Bool) : List Bool :=
  match piece with
  | .run => orLater row
  | .one => row.tail ++ [false]
  | .exactly c => List.zipWith (fun d flag => d == c && flag) text row.tail ++ [false]

/-- The row of a pattern over the endings of a text. -/
def row (glob : Glob) (text : Text) : List Bool :=
  glob.foldr (rowBefore text) (emptyRow text)

/-- The pattern accepts the text as a whole. -/
def accepts (glob : Glob) (text : Text) : Bool :=
  (row glob text).headD false

/-- Characters that mean something in a regular expression, and blanks, which some dialects
ignore. -/
def isSpecial (c : Char) : Bool :=
  isBlank c || ("#$&()*+-.?[\\]^|~" : Text).contains c || c == '\x7b' || c == '\x7d'

/-- One piece of a pattern as a regular expression. -/
def regexPiece : GlobPiece → Text
  | .run => ".*"
  | .one => "."
  | .exactly c => if isSpecial c then ['\\', c] else [c]

/-- A pattern as an anchored regular expression. -/
def toRegex (glob : Glob) : Text :=
  "^" ++ glob.flatMap regexPiece ++ "$"

end Glob

end SafeDelete
