/-
Module: SafeDelete.Host.Columns
Purpose: How many columns the lines of a command may have.
Main exports: Environment.columns
-/
import SafeDelete.Host.Environment
import SafeDelete.Text.Digit
import SafeDelete.Text.Numeral

namespace SafeDelete

/-- The variable that holds the number of columns. -/
def columnsVariable : Text := "COLUMNS"

/-- The columns where the environment names none. -/
def defaultColumns : Nat := 80

/-- A text without the white space around it. -/
def withoutWhiteSpace (text : Text) : Text :=
  ((text.dropWhile isWhiteSpace).reverse.dropWhile isWhiteSpace).reverse

/-- The values of digits, of any script; one underscore may stand between two of them. -/
def digitValues? : Text → Option (List Nat)
  | [] => none
  | [c] => (anyDigitValue? c).map fun value => [value]
  | c :: '_' :: rest => do return (← anyDigitValue? c) :: (← digitValues? rest)
  | c :: rest => do return (← anyDigitValue? c) :: (← digitValues? rest)

/-- The number that a text spells, with or without a plus sign. -/
def spelledNumber? (text : Text) : Option Nat :=
  let unsigned :=
    match withoutWhiteSpace text with
    | '+' :: rest => rest
    | rest => rest
  match digitValues? unsigned with
  | some values =>
    if digitLimit < values.length then none
    else some (values.foldl (fun number value => 10 * number + value) 0)
  | none => none

/-- The columns that lines may have: as many as the environment says, if that is any. -/
def Environment.columns (environment : Environment) : Nat :=
  match spelledNumber? (environment.get columnsVariable) with
  | some (columns + 1) => columns + 1
  | _ => defaultColumns

end SafeDelete
