/-
Module: SafeDelete.Regex.Flag
Purpose: Flags, under which the same text is another expression.
Main exports: Regex.Flag, Regex.Flag.ofLetters?
-/
import SafeDelete.Text.Basic

namespace SafeDelete.Regex

/-- A flag of an expression. -/
inductive Flag where
  /-- Words, digits and blanks are those among the first 128 characters. -/
  | ascii
  /-- Words, digits and blanks are those of every script. -/
  | unicode
  /-- Words, digits and blanks are those of a locale. -/
  | locale
  | bestMatch
  | betterMatch
  | longestMatch
  | fullCase
  | ignoreCase
  | multiline
  /-- The point stands for line feeds too. -/
  | dotAll
  | backward
  /-- Words and lines end where text segmentation says so. -/
  | segments
  /-- Blanks and comments between the parts of an expression are skipped. -/
  | verbose
  /-- The older dialect: flags are those of the whole, and sets have no operators. -/
  | older
  /-- The newer dialect: flags are those of what follows, and sets have operators. -/
  | newer
  deriving Repr, DecidableEq

namespace Flag

/-- Flags by their letters. -/
def letters : List (String × Flag) := [
  ("a", .ascii), ("b", .bestMatch), ("e", .betterMatch), ("f", .fullCase), ("i", .ignoreCase),
  ("L", .locale), ("m", .multiline), ("p", .longestMatch), ("r", .backward), ("s", .dotAll),
  ("u", .unicode), ("V0", .older), ("V1", .newer), ("w", .segments), ("x", .verbose)]

/-- The flag of a letter, or of a letter with a digit. -/
def ofLetters? (text : Text) : Option Flag :=
  (letters.find? fun entry => entry.1.toList = text).map Prod.snd

/-- The flag is always one of the whole expression. -/
def isGlobal (flag : Flag) : Bool :=
  ([.bestMatch, .betterMatch, .longestMatch, .backward, .older, .newer] : List Flag).contains flag

/-- The flag says which characters words, digits and blanks are. -/
def isEncoding (flag : Flag) : Bool :=
  ([.ascii, .unicode, .locale] : List Flag).contains flag

end Flag

end SafeDelete.Regex
