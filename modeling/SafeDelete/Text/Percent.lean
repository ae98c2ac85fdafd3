/-
Module: SafeDelete.Text.Percent
Purpose: Percent encoding of a path, octet by octet of its UTF-8 form.
Main exports: Percent.encode, Percent.isUnreserved
-/
import SafeDelete.Text.Utf8

namespace SafeDelete.Percent

/-- Characters written as they are: ASCII letters and digits, and the marks of plain paths. -/
def isUnreserved (c : Char) : Bool :=
  c.isAlphanum || c == '_' || c == '.' || c == '-' || c == '~' || c == '/'

/-- One octet: itself where unreserved, else a percent sign and two upper-case digits. -/
def encodeByte (byte : UInt8) : Text :=
  let c := Char.ofNat byte.toNat
  if isUnreserved c then [c] else '%' :: (hexadecimal 2 byte.toNat).map Char.toUpper

/-- A text with every octet outside the unreserved characters percent-encoded. -/
def encode (text : Text) : Text :=
  (Utf8.encode text).flatMap encodeByte

end SafeDelete.Percent
