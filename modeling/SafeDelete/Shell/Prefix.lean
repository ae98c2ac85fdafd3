/-
Module: SafeDelete.Shell.Prefix
Purpose: What may stand before the program of a command: assignments, and sudo with its options.
Main exports: Shell.Prefix, Shell.Prefix.split, Shell.isAssignment
-/
import SafeDelete.Shell.Token

namespace SafeDelete.Shell

/-- A letter or underscore of ASCII. -/
def isNameStart (c : Char) : Bool :=
  c.isAlpha || c == '_'

/-- A letter, digit or underscore of ASCII. -/
def isNameChar (c : Char) : Bool :=
  c.isAlphanum || c == '_'

/-- A word that assigns a variable: a name, an equals sign, and whatever follows. -/
def isAssignment : Text → Bool
  | [] => false
  | c :: rest =>
    isNameStart c && (rest.dropWhile isNameChar).head? == some '='

/-- The options of sudo that take the next word as their argument. -/
def sudoOptionsWithArgument : List Text :=
  ["-u", "-g", "-C", "-h", "-p", "-r", "-t", "-U"]

/-- The words before the program of a command. -/
structure Prefix where
  assignments : List Text
  /-- Sudo and its options, with their arguments. -/
  elevation : List Text
  deriving Repr, DecidableEq

namespace Prefix

/-- No words at all. -/
def empty : Prefix := ⟨[], []⟩

/-- How many words. -/
def length (p : Prefix) : Nat :=
  p.assignments.length + p.elevation.length

/-- The assignments on one line. -/
def environment (p : Prefix) : Text :=
  Text.unwords p.assignments

/-- Sudo and its options on one line. -/
def privilege (p : Prefix) : Text :=
  Text.unwords p.elevation

/-- The options of sudo at the front, arguments included, and the words after them. -/
def splitSudoOptions : List Text → List Text × List Text
  | [] => ([], [])
  | option :: argument :: rest =>
    if option ∈ sudoOptionsWithArgument then
      let (options, after) := splitSudoOptions rest
      (option :: argument :: options, after)
    else if Text.startsWith "-" option then
      let (options, after) := splitSudoOptions (argument :: rest)
      (option :: options, after)
    else ([], option :: argument :: rest)
  | [option] => if Text.startsWith "-" option then ([option], []) else ([], [option])

/-- Sudo with its options at the front, and the words after them. -/
def splitSudo : List Text → List Text × List Text
  | [] => ([], [])
  | word :: rest =>
    if word = "sudo" then
      let (options, after) := splitSudoOptions rest
      (word :: options, after)
    else ([], word :: rest)

/-- The longest prefix of a list of words, and the words after it. -/
def split (words : List Text) : Prefix × List Text :=
  let (elevation, after) := splitSudo (words.dropWhile isAssignment)
  (⟨words.takeWhile isAssignment, elevation⟩, after)

end Prefix

end SafeDelete.Shell
