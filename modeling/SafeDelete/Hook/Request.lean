/-
Module: SafeDelete.Hook.Request
Purpose: What a host asks a hook about.
Main exports: Request, Request.ofJson?, Request.read
-/
import SafeDelete.Config.Load
import SafeDelete.Text.Preview

namespace SafeDelete

/-- A command that is about to run. -/
structure Request where
  /-- All fields of the request. -/
  fields : Json.Fields
  /-- The input of the tool, one of those fields. -/
  input : Json.Fields
  /-- The command, a field of that input. -/
  command : Text

namespace Request

/-- The request for a tool with a command that is not empty. -/
def ofJson? : Json → Option Request
  | .obj fields =>
    match Json.Fields.get? "tool_input" fields with
    | some (.obj input) =>
      match Json.Fields.get? "command" input with
      | some (.str command) => if command.isEmpty then none else some ⟨fields, input, command⟩
      | _ => none
    | _ => none
  | _ => none

/-- The input of the tool with another command. -/
def inputWith (request : Request) (command : Text) : Json :=
  .obj (Json.Fields.set "command" (.str command) request.input)

/-- The request with another command. -/
def withCommand (request : Request) (command : Text) : Json :=
  .obj (Json.Fields.set "tool_input" (request.inputWith command) request.fields)

/-- The tool that the request is for is the given one. -/
def isFor (request : Request) (tool : Text) : Bool :=
  match Json.Fields.get? "tool_name" request.fields with
  | some (.str name) => name == tool
  | _ => false

/-- Read a request.  Blank input is none; what is not JSON goes to the log. -/
def read (host : Host) (stdin : Text) : Effect InputError (Option Request) :=
  if Text.isBlank stdin then return none
  else
    match Json.parse stdin with
    | .ok value => return ofJson? value
    | .error (.oversized digits) => throw (.oversized digits)
    | .error error => do
      Config.note host "DEBUG" ("Ignoring malformed JSON input: " ++ error.message)
      return none

end Request

end SafeDelete
