/-
Module: SafeDelete.Shell.ScanMode
Purpose: How the characters of a command line are read: plainly, quoted or escaped.
Main exports: Shell.Quote, Shell.ScanMode, Shell.ScanMode.step, Shell.ScanMode.keeps, Shell.literal
-/
import SafeDelete.Text.Basic

namespace SafeDelete.Shell

/-!
A command line is read character by character.  One small machine says how each character is to be
taken; words, segments and literal values are all read off it, so they agree on every character.
-/

/-- The two kinds of quotes. -/
inductive Quote where
  | single
  | double
  deriving Repr, DecidableEq

/-- The character of a quote. -/
def Quote.mark : Quote → Char
  | .single => '\''
  | .double => '"'

/-- The quote of a character. -/
def Quote.ofChar? (c : Char) : Option Quote :=
  if c = '\'' then some .single else if c = '"' then some .double else none

/-- How the next character is to be taken. -/
inductive ScanMode where
  /-- Outside quotes. -/
  | plain
  /-- Between single quotes, where nothing but the closing quote is special. -/
  | single
  /-- Between double quotes, where a backslash still escapes. -/
  | double
  /-- After a backslash outside quotes. -/
  | escaped
  /-- After a backslash between double quotes. -/
  | doubleEscaped
  deriving Repr, DecidableEq

namespace ScanMode

/-- Take one character. -/
def step : ScanMode → Char → ScanMode
  | .plain, c =>
    if c = '\\' then .escaped
    else
      match Quote.ofChar? c with
      | some .single => .single
      | some .double => .double
      | none => .plain
  | .single, c => if c = Quote.single.mark then .plain else .single
  | .double, c =>
    if c = '\\' then .doubleEscaped else if c = Quote.double.mark then .plain else .double
  | .escaped, _ => .plain
  | .doubleEscaped, _ => .double

/-- The mode after a whole text. -/
def run (mode : ScanMode) (text : Text) : ScanMode :=
  text.foldl step mode

/-- The character belongs to what is meant, and is not a mark of quoting or escaping. -/
def keeps : ScanMode → Char → Bool
  | .plain, c => c ≠ '\\' && (Quote.ofChar? c).isNone
  | .single, c => c ≠ Quote.single.mark
  | .double, c => c ≠ '\\' && c ≠ Quote.double.mark
  | .escaped, _ => true
  | .doubleEscaped, _ => true

end ScanMode

/-- What is meant by a text that is read in the given mode. -/
def literalFrom : ScanMode → Text → Text
  | _, [] => []
  | mode, c :: rest =>
    if mode.keeps c then c :: literalFrom (mode.step c) rest else literalFrom (mode.step c) rest

/-- What is meant by a word: its text without quoting and escaping. -/
def literal (word : Text) : Text :=
  literalFrom .plain word

/-- The first quote that opens in a text that is read in the given mode. -/
def openingQuoteFrom : ScanMode → Text → Option Quote
  | _, [] => none
  | .plain, c :: rest => (Quote.ofChar? c).or (openingQuoteFrom (ScanMode.plain.step c) rest)
  | mode, c :: rest => openingQuoteFrom (mode.step c) rest

/-- The first quote that opens in a word. -/
def openingQuote (word : Text) : Option Quote :=
  openingQuoteFrom .plain word

end SafeDelete.Shell
