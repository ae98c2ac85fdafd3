/-
Module: SafeDelete.Text.Blank
Purpose: The blank characters of the Unicode tables, and trimming them off both ends of a text.
Main exports: isBlank, isWhiteSpace, Text.isBlank, Text.trim
-/
import SafeDelete.Text.Basic

namespace SafeDelete

/-- Blank characters: the separators of lines, paragraphs and words, in every script. -/
def isBlank (c : Char) : Bool :=
  let n := c.toNat
  (0x09 ≤ n && n ≤ 0x0D) || (0x1C ≤ n && n ≤ 0x20) || n == 0x85 || n == 0xA0 || n == 0x1680 ||
    (0x2000 ≤ n && n ≤ 0x200A) || n == 0x2028 || n == 0x2029 || n == 0x202F || n == 0x205F ||
    n == 0x3000

/-- White space: the blank characters without the four separators of information. -/
def isWhiteSpace (c : Char) : Bool :=
  isBlank c && !(0x1C ≤ c.toNat && c.toNat ≤ 0x1F)

namespace Text

/-- A text of blank characters only, the empty text among them. -/
def isBlank (text : Text) : Bool :=
  text.all SafeDelete.isBlank

/-- Drop the blank characters at the front. -/
def trimStart (text : Text) : Text :=
  text.dropWhile SafeDelete.isBlank

/-- Drop the blank characters at the back. -/
def trimEnd (text : Text) : Text :=
  (text.reverse.dropWhile SafeDelete.isBlank).reverse

/-- Drop the blank characters at both ends. -/
def trim (text : Text) : Text :=
  trimEnd (trimStart text)

end Text

end SafeDelete
