/-
Module: SafeDelete.Text.Preview
Purpose: The start of a long text, for display.
Main exports: Text.shorten, Text.preview, previewLength
-/
import SafeDelete.Text.Basic

namespace SafeDelete

/-- The length above which a command is shown shortened. -/
def previewLength : Int := 80

namespace Text

/-- The text up to an offset, which counts from the end where it is negative. -/
def upTo (offset : Int) (text : Text) : Text :=
  if offset < 0 then text.take (text.length + offset).toNat else text.take offset.toNat

/-- A text within the limit as it is, a longer one cut to leave room for three dots. -/
def shorten (limit : Int) (text : Text) : Text :=
  if text.length ≤ limit then text else text.upTo (limit - 3) ++ "..."

/-- A text as a log shows it. -/
def preview (text : Text) : Text :=
  text.shorten previewLength

end Text

end SafeDelete
