/-
Module: SafeDelete.Text.Basic
Purpose: The text and byte types of the library, with joining, cutting and looking inside.
Main exports: Text, Bytes, Text.join, Text.splitOn, Text.startsWith
-/

namespace SafeDelete

/-!
Every text of the library is a list of characters, so that scanners, printers and their laws are
all stated by recursion on the same data.  String literals are read as such lists.
-/

/-- A text is the list of its characters, in order. -/
abbrev Text := List Char

/-- The contents of a file, octet by octet. -/
abbrev Bytes := List UInt8

instance : Coe String Text := ⟨String.toList⟩

namespace Text

/-- Join the parts, with the separator between two neighbours. -/
def join (separator : Text) : List Text → Text
  | [] => []
  | [part] => part
  | part :: next :: rest => part ++ separator ++ join separator (next :: rest)

/-- Words on one line, a single space between two neighbours. -/
def unwords (words : List Text) : Text :=
  join " " words

/-- Cut a text at every occurrence of one character; a text without it is one part. -/
def splitOn (separator : Char) : Text → List Text
  | [] => [[]]
  | c :: rest =>
    if c = separator then [] :: splitOn separator rest
    else
      match splitOn separator rest with
      | [] => [[c]]
      | part :: parts => (c :: part) :: parts

/-- The text begins with the given opening. -/
def startsWith (opening text : Text) : Bool :=
  opening.isPrefixOf text

/-- The text ends with the given closing. -/
def endsWith (closing text : Text) : Bool :=
  closing.isSuffixOf text

end Text

end SafeDelete
