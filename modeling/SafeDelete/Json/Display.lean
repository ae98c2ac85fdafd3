/-
Module: SafeDelete.Json.Display
Purpose: JSON values as messages show them.
Main exports: Json.display
-/
import SafeDelete.Json.Value
import SafeDelete.Number.Layout
import SafeDelete.Text.Quoted

namespace SafeDelete.Json

/-- Numbers in messages: as in JSON, with lower-case words. -/
def displayLayout : NumberLayout := ⟨-4, 15, "nan", "inf"⟩

mutual

/-- A value inside a list or an object: strings are quoted. -/
def displayNested : Json → Text
  | .null => "None"
  | .bool true => "True"
  | .bool false => "False"
  | .int value => signedDecimal value
  | .float value => value.render displayLayout
  | .str value => value.quoted
  | .arr items => '[' :: Text.join ", " (displayItems items) ++ [']']
  | .obj fields => '\x7b' :: Text.join ", " (displayFields fields) ++ ['\x7d']

/-- Each item of a list. -/
def displayItems : List Json → List Text
  | [] => []
  | item :: items => displayNested item :: displayItems items

/-- Each field of an object. -/
def displayFields : List (Text × Json) → List Text
  | [] => []
  | (key, value) :: fields => (key.quoted ++ ": " ++ displayNested value) :: displayFields fields

end

/-- A value in a message: a string stands bare. -/
def display : Json → Text
  | .str value => value
  | value => displayNested value

end SafeDelete.Json
