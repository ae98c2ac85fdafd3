/-
Module: SafeDelete.Shell.Segment
Purpose: A command line cut at its control operators.
Main exports: Shell.Operator, Shell.Segment, Shell.segments
-/
import SafeDelete.Shell.Token
import SafeDelete.Text.Blank

namespace SafeDelete.Shell

/-- The control operators between commands. -/
inductive Operator where
  | and
  | or
  | sequence
  | pipe
  deriving Repr, DecidableEq

/-- How an operator is written. -/
def Operator.text : Operator → Text
  | .and => "&&"
  | .or => "||"
  | .sequence => ";"
  | .pipe => "|"

/-- The operator that a text spells. -/
def Operator.spelled? (text : Text) : Option Operator :=
  [Operator.and, .or, .sequence, .pipe].find? fun operator => operator.text = text

/-- One command of a command line. -/
structure Segment where
  /-- The text between its operators, trimmed. -/
  raw : Text
  /-- The words of that text. -/
  tokens : List Token
  /-- The operator before it; the first segment has none. -/
  operator : Option Operator
  deriving Repr, DecidableEq

/-- The segment of a text after an operator. -/
def Segment.ofText (operator : Option Operator) (text : Text) : Segment :=
  ⟨text.trim, tokenize text.trim, operator⟩

/-- The text up to the first operator, and each operator with the text after it. -/
abbrev Pieces := Text × List (Operator × Text)

/-- Begin a new piece after an operator. -/
def Pieces.startWith (operator : Operator) (later : Pieces) : Pieces :=
  ([], (operator, later.1) :: later.2)

/-- Cut a text that is read in the given mode at every operator outside quotes and escapes. -/
def splitPieces : ScanMode → Text → Pieces
  | _, [] => ([], [])
  | .plain, '&' :: '&' :: rest => (splitPieces .plain rest).startWith .and
  | .plain, '|' :: '|' :: rest => (splitPieces .plain rest).startWith .or
  | .plain, '|' :: rest => (splitPieces .plain rest).startWith .pipe
  | .plain, ';' :: rest => (splitPieces .plain rest).startWith .sequence
  | mode, c :: rest =>
    let (text, later) := splitPieces (mode.step c) rest
    (c :: text, later)

/-- The pieces of a command line, each with the operator before it. -/
def pieces (command : Text) : List (Option Operator × Text) :=
  let (first, later) := splitPieces .plain command
  (none, first) :: later.map fun (operator, text) => (some operator, text)

/-- The segments of a command line.  Blank pieces are dropped, and the operator before the first
piece that is left goes with them. -/
def segments (command : Text) : List Segment :=
  match (pieces command).filter fun piece => !Text.isBlank piece.2 with
  | [] => []
  | (_, first) :: later =>
    Segment.ofText none first ::
      later.map fun (operator, text) => Segment.ofText operator text

end SafeDelete.Shell
