/-
Module: SafeDelete.Deletion.Flag
Purpose: The options of the delete command, as flags to drop and as effects to judge.
Main exports: isOptionLike, isDeleteFlag, FlagEffects, flagEffects
-/
import SafeDelete.Text.Basic

namespace SafeDelete

/-- The long options of the delete command. -/
def longFlags : List Text := [
  "--recursive", "--force", "--interactive", "--verbose", "--dir", "--one-file-system",
  "--no-preserve-root", "--preserve-root"]

/-- The letters of its short options. -/
def shortFlagLetters : Text :=
  "rRfivdI"

/-- A word that looks like an option: it starts with a dash and is not a dash alone. -/
def isOptionLike (word : Text) : Bool :=
  Text.startsWith "-" word && word != "-"

/-- One or more letters of short options; a line feed may end them. -/
def isShortCluster : Text → Bool
  | [] => false
  | [c] => shortFlagLetters.contains c
  | [c, '\n'] => shortFlagLetters.contains c
  | c :: rest => shortFlagLetters.contains c && isShortCluster rest

/-- A recognised option of the delete command: a long one spelled out, or a dash and a cluster of
short ones.  Any other word is an operand, so that no path is ever taken for an option. -/
def isDeleteFlag (word : Text) : Bool :=
  longFlags.contains word ||
    match word with
    | '-' :: cluster => isShortCluster cluster
    | _ => false

/-- What options ask of a delete. -/
structure FlagEffects where
  recursive : Bool
  force : Bool
  deriving Repr, DecidableEq

/-- What an option asks for: a long one only when spelled out, a short cluster letter by letter. -/
def flagEffects (word : Text) : FlagEffects :=
  if Text.startsWith "--" word then ⟨word == "--recursive", word == "--force"⟩
  else if isOptionLike word then
    let letters := word.drop 1
    ⟨letters.contains 'r' || letters.contains 'R', letters.contains 'f'⟩
  else ⟨false, false⟩

end SafeDelete
