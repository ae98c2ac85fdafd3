/-
Module: SafeDelete.Json.Fault
Purpose: What can be wrong with a JSON text, and how it is reported.
Main exports: Json.Fault, Json.Place, Json.ReadError, Json.ReadError.message
-/
import SafeDelete.Text.Numeral

namespace SafeDelete.Json

/-- What is wrong at some place of a text. -/
inductive Fault where
  | byteOrderMark
  | value
  | extraData
  | propertyName
  | colon
  | comma
  | unterminatedString
  | controlCharacter
  | escape
  | unicodeEscape
  deriving Repr, DecidableEq

/-- A place in a text; lines and columns count from one, offsets from zero. -/
structure Place where
  line : Nat
  column : Nat
  offset : Nat
  deriving Repr, DecidableEq

/-- The place at which `rest` of the text is left. -/
def Place.before (text rest : Text) : Place :=
  let offset := text.length - rest.length
  let earlier := text.take offset
  ⟨earlier.count '\n' + 1, (earlier.reverse.takeWhile (· ≠ '\n')).length + 1, offset⟩

/-- Why a text could not be read. -/
inductive ReadError where
  /-- The text is not JSON. -/
  | malformed (fault : Fault) (place : Place)
  /-- A whole number has more digits than are converted. -/
  | oversized (digits : Nat)
  deriving Repr, DecidableEq

/-- The wording of a fault. -/
def Fault.message : Fault → Text
  | .byteOrderMark => "Unexpected UTF-8 BOM (decode using utf-8-sig)"
  | .value => "Expecting value"
  | .extraData => "Extra data"
  | .propertyName => "Expecting property name enclosed in double quotes"
  | .colon => "Expecting ':' delimiter"
  | .comma => "Expecting ',' delimiter"
  | .unterminatedString => "Unterminated string starting at"
  | .controlCharacter => "Invalid control character at"
  | .escape => "Invalid \\escape"
  | .unicodeEscape => "Invalid \\uXXXX escape"

/-- The wording of a failed reading. -/
def ReadError.message : ReadError → Text
  | .malformed fault place =>
    fault.message ++ ": line " ++ decimal place.line ++ " column " ++ decimal place.column ++
      " (char " ++ decimal place.offset ++ ")"
  | .oversized digits =>
    "Exceeds the limit (" ++ decimal digitLimit ++
      " digits) for integer string conversion: value has " ++ decimal digits ++
      " digits; use sys.set_int_max_str_digits() to increase the limit"

end SafeDelete.Json
