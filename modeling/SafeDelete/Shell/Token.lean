/-
Module: SafeDelete.Shell.Token
Purpose: The words of a command, as written.
Main exports: Shell.Token, Shell.tokenize
-/
import SafeDelete.Shell.ScanMode

namespace SafeDelete.Shell

/-- A word of a command: its text with all quotes and backslashes, and the first quote that opens
in it. -/
structure Token where
  text : Text
  quote : Option Quote
  deriving Repr, DecidableEq

/-- The word that a text is. -/
def Token.ofText (text : Text) : Token :=
  ⟨text, openingQuote text⟩

/-- The characters that end a word outside quotes. -/
def isSeparator (c : Char) : Bool :=
  c == ' ' || c == '\t' || c == '\n'

/-- A word before others, unless it is empty. -/
def consWord (word : Text) (words : List Text) : List Text :=
  if word.isEmpty then words else word :: words

/-- The rest of the word that is being read, and the words after it. -/
def splitWords : ScanMode → Text → Text × List Text
  | _, [] => ([], [])
  | mode, c :: rest =>
    if mode = .plain ∧ isSeparator c then
      let (word, words) := splitWords .plain rest
      ([], consWord word words)
    else
      let (word, words) := splitWords (mode.step c) rest
      (c :: word, words)

/-- The words of a command, as written.  Open quotes and a last backslash are no errors: the last
word ends with the text. -/
def words (command : Text) : List Text :=
  let (word, later) := splitWords .plain command
  consWord word later

/-- The words of a command, each with its quote. -/
def tokenize (command : Text) : List Token :=
  (words command).map Token.ofText

end SafeDelete.Shell
