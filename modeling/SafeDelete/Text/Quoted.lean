/-
Module: SafeDelete.Text.Quoted
Purpose: Texts shown between quotes in messages, so that every character of them can be seen.
Main exports: Text.quoted
-/
import SafeDelete.Text.Numeral
import SafeDelete.Text.Printable

namespace SafeDelete.Text

/-- Texts are quoted singly, but doubly where that saves an escape: they hold a single quote and
no double one. -/
def quoteMark (text : Text) : Char :=
  if text.contains '\'' && !text.contains '"' then '"' else '\''

/-- One character between the given quotes. -/
def quoteChar (mark c : Char) : Text :=
  if c = mark ∨ c = '\\' then ['\\', c]
  else if c = '\n' then "\\n"
  else if c = '\r' then "\\r"
  else if c = '\t' then "\\t"
  else if isPrintable c then [c]
  else if c.toNat ≤ 0xFF then "\\x" ++ hexadecimal 2 c.toNat
  else if c.toNat ≤ 0xFFFF then "\\u" ++ hexadecimal 4 c.toNat
  else "\\U" ++ hexadecimal 8 c.toNat

/-- A text between quotes. -/
def quoted (text : Text) : Text :=
  let mark := quoteMark text
  mark :: text.flatMap (quoteChar mark) ++ [mark]

end SafeDelete.Text
