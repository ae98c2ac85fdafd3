/-
Module: SafeDelete.Text.Newline
Purpose: Line ends of every convention read as one.
Main exports: Text.unifyNewlines
-/
import SafeDelete.Text.Basic

namespace SafeDelete.Text

/-- A carriage return ends a line by itself, and together with the line feed after it; both are
read as a line feed. -/
def unifyNewlines : Text → Text
  | [] => []
  | '\r' :: '\n' :: rest => '\n' :: unifyNewlines rest
  | c :: rest => (if c = '\r' then '\n' else c) :: unifyNewlines rest

end SafeDelete.Text
