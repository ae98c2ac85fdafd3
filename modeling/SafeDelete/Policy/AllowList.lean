/-
Module: SafeDelete.Policy.AllowList
Purpose: Commands that are let through whatever they do.
Main exports: isAllowlisted, Glob.expression, AllowListError, AllowList.admits
-/
import SafeDelete.Json.Access
import SafeDelete.Regex.Match
import SafeDelete.Regex.Parser
import SafeDelete.Text.Glob

namespace SafeDelete

/-- Some pattern of the list accepts the command as a whole. -/
def isAllowlisted (command : Text) (patterns : List Text) : Bool :=
  patterns.any fun pattern => (Glob.ofText pattern).accepts command

/-!
A host may hand over an allow-list of any kind.  Its elements are the patterns, the elements of a
pattern are its pieces, and the elements of a piece are texts.  A piece that is not a text may hold
texts of several characters; those go into the expression of the pattern as they are, so that such
a pattern is a regular expression.
-/

namespace Glob

/-- A text that gets a backslash in an expression: a special character, or white space. -/
def needsBackslash : Text → Bool
  | [] => false
  | [c] => isSpecial c
  | text => Text.isBlank text

/-- The texts of a piece, one after the other. -/
def textsExpression : List Json → Except Json.Misuse Text
  | [] => .ok []
  | .str text :: rest => do
    let later ← textsExpression rest
    return (if needsBackslash text then '\\' :: text else text) ++ later
  | .arr _ :: _ => .error (.hashing .arr)
  | .obj _ :: _ => .error (.hashing .obj)
  | value :: _ => .error (.attribute "isspace" value.kind)

/-- A piece of a pattern: a star, a question mark, or the texts that are its elements. -/
def pieceExpression : Json → Except Json.Misuse Text
  | .str ['*'] => .ok (regexPiece .run)
  | .str ['?'] => .ok (regexPiece .one)
  | piece => do
    let texts ← piece.elements
    textsExpression texts

/-- The pieces of a pattern, one after the other. -/
def piecesExpression : List Json → Except Json.Misuse Text
  | [] => .ok []
  | piece :: rest => do
    let first ← pieceExpression piece
    let later ← piecesExpression rest
    return first ++ later

/-- A pattern of any kind as an anchored regular expression. -/
def expression (pattern : Json) : Except Json.Misuse Text := do
  let pieces ← pattern.elements
  let inner ← piecesExpression pieces
  return "^" ++ inner ++ "$"

end Glob

/-- Why an allow-list cannot be searched. -/
inductive AllowListError where
  /-- A value in it is of another kind than it should be. -/
  | misuse (fault : Json.Misuse)
  /-- An expression in it sets flags that do not go together. -/
  | clash (fault : Regex.Clash)
  deriving Repr, DecidableEq

/-- The wording of a search that cannot be done. -/
def AllowListError.message : AllowListError → Text
  | .misuse fault => fault.message
  | .clash fault => fault.message

namespace Glob

/-- A pattern of any kind accepts a command.  One that makes no expression accepts none. -/
def admits (pattern : Json) (command : Text) : Except AllowListError Bool :=
  match pattern with
  | .str text => .ok ((ofText text).accepts command)
  | _ => do
    let text ← (expression pattern).mapError .misuse
    match ← (Regex.Program.ofText? text).mapError .clash with
    | some program => return program.accepts command
    | none => return false

end Glob

namespace AllowList

/-- Some of the patterns accepts the command; those after it are not looked at. -/
def someAccepts (command : Text) : List Json → Except AllowListError Bool
  | [] => .ok false
  | pattern :: rest => do
    if ← Glob.admits pattern command then return true
    someAccepts command rest

/-- An allow-list of any kind lets a command through. -/
def admits (allowlist : Json) (command : Text) : Except AllowListError Bool := do
  let patterns ← allowlist.elements.mapError .misuse
  someAccepts command patterns

end AllowList

end SafeDelete
