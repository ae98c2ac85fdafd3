/-
Module: SafeDelete.Host.Moment
Purpose: The time on the clock, and how it is written.
Main exports: Moment, Moment.text
-/
import SafeDelete.Text.Numeral

namespace SafeDelete

/-- A date and a time of day, to the second. -/
structure Moment where
  year : Int
  month : Nat
  day : Nat
  hour : Nat
  minute : Nat
  second : Nat
  deriving Repr, DecidableEq

/-- The date and the time of day, with a `T` between them. -/
def Moment.text (moment : Moment) : Text :=
  signedDecimal moment.year ++ "-" ++ twoDigits moment.month ++ "-" ++ twoDigits moment.day ++
    "T" ++ twoDigits moment.hour ++ ":" ++ twoDigits moment.minute ++ ":" ++
    twoDigits moment.second

end SafeDelete
