/-
Module: SafeDelete.Json.Printer
Purpose: JSON values written on one line of ASCII characters.
Main exports: Json.render, Json.renderString
-/
import SafeDelete.Json.Value
import SafeDelete.Number.Layout

namespace SafeDelete.Json

/-- Numbers are positional from 0.0001 up to sixteen whole digits. -/
def numberLayout : NumberLayout := ⟨-4, 15, "NaN", "Infinity"⟩

/-- A numbered escape. -/
def unicodeEscape (unit : Nat) : Text :=
  "\\u" ++ hexadecimal 4 unit

/-- One character of a string: the short escapes, and numbered ones for whatever has no printed form
in ASCII; two of them where a character lies beyond the units of sixteen bits. -/
def renderChar (c : Char) : Text :=
  if c = '"' then "\\\""
  else if c = '\\' then "\\\\"
  else if c = '\n' then "\\n"
  else if c = '\r' then "\\r"
  else if c = '\t' then "\\t"
  else if c = '\x0c' then "\\f"
  else if c = '\x08' then "\\b"
  else if 0x20 ≤ c.toNat ∧ c.toNat ≤ 0x7E then [c]
  else if c.toNat ≤ 0xFFFF then unicodeEscape c.toNat
  else
    let offset := c.toNat - 0x10000
    unicodeEscape (0xD800 + offset / 0x400) ++ unicodeEscape (0xDC00 + offset % 0x400)

/-- A string between its quotes. -/
def renderString (text : Text) : Text :=
  '"' :: text.flatMap renderChar ++ ['"']

mutual

/-- A value on one line. -/
def render : Json → Text
  | .null => "null"
  | .bool true => "true"
  | .bool false => "false"
  | .int value => signedDecimal value
  | .float value => value.render numberLayout
  | .str value => renderString value
  | .arr items => '[' :: Text.join ", " (renderItems items) ++ [']']
  | .obj fields => '\x7b' :: Text.join ", " (renderFields fields) ++ ['\x7d']

/-- Each item of an array. -/
def renderItems : List Json → List Text
  | [] => []
  | item :: items => render item :: renderItems items

/-- Each field of an object. -/
def renderFields : List (Text × Json) → List Text
  | [] => []
  | (key, value) :: fields => (renderString key ++ ": " ++ render value) :: renderFields fields

end

end SafeDelete.Json
