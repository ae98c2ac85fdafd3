/-
Module: SafeDelete.Config.Parse
Purpose: Single settings read from values of any kind; what is not understood takes its default.
Main exports: Mode.ofJson, Level.ofJson, parseAllowlist
-/
import SafeDelete.Config.Basic
import SafeDelete.Text.Blank

namespace SafeDelete

/-- A mode: rewriting, unless denial is asked for. -/
def Mode.ofJson : Json → Mode
  | .str text => if text = Mode.deny.text then .deny else .rewrite
  | _ => .rewrite

/-- A level: strict, unless the normal one is asked for. -/
def Level.ofJson : Json → Level
  | .str text => Level.ofText text
  | _ => .strict

/-- The texts among the items of a list. -/
def textItems (items : List Json) : List Text :=
  items.filterMap fun
    | .str text => some text
    | _ => none

/-- The items trimmed, and the blank ones dropped. -/
def trimmedItems (items : List Text) : List Text :=
  (items.filter fun item => !Text.isBlank item).map Text.trim

/-- Patterns: the texts of a list, or the parts of a text between its commas. -/
def parseAllowlist : Json → List Text
  | .str text => trimmedItems (text.splitOn ',')
  | .arr items => trimmedItems (textItems items)
  | _ => []

end SafeDelete
