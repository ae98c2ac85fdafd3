/-
Module: SafeDelete.Host.InputError
Purpose: Input that cannot be taken in at all, and how it is reported.
Main exports: InputError, InputError.kind, InputError.message
-/
import SafeDelete.Files.Errno
import SafeDelete.Json.Fault
import SafeDelete.Text.Utf8

namespace SafeDelete

/-- Why input could not be taken in. -/
inductive InputError where
  /-- Octets that are not UTF-8. -/
  | encoding (fault : Utf8.Fault)
  /-- A whole number that is too long to convert. -/
  | oversized (digits : Nat)
  /-- A path that cannot be looked at. -/
  | system (error : SystemError)
  deriving Repr, DecidableEq

/-- The name of a refusal by the operating system in reports. -/
def SystemError.kind (error : SystemError) : Text :=
  match error.errno with
  | .noEntry => "FileNotFoundError"
  | .exists => "FileExistsError"
  | .notDirectory => "NotADirectoryError"
  | .isDirectory => "IsADirectoryError"
  | _ => "OSError"

namespace InputError

/-- The name of an error in reports. -/
def kind : InputError → Text
  | .encoding _ => "UnicodeDecodeError"
  | .oversized _ => "ValueError"
  | .system error => error.kind

/-- The wording of an error. -/
def message : InputError → Text
  | .encoding fault => fault.message
  | .oversized digits => (Json.ReadError.oversized digits).message
  | .system error => error.message

end InputError

end SafeDelete
