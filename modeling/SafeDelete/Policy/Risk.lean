/-
Module: SafeDelete.Policy.Risk
Purpose: What a delete command would do: its effects and its operands.
Main exports: Risk, Risk.ofCommand?, isWildcard
-/
import SafeDelete.Deletion.Match

namespace SafeDelete

open Shell

/-- An operand that holds a wildcard once its quotes and backslashes are gone. -/
def isWildcard (word : Text) : Bool :=
  (literal word).any fun c => c == '*' || c == '?' || c == '['

/-- What is risky about a delete. -/
structure Risk where
  recursive : Bool
  force : Bool
  wildcard : Bool
  operandCount : Nat
  deriving Repr, DecidableEq

namespace Risk

/-- A delete of nothing. -/
def empty : Risk := ⟨false, false, false, 0⟩

/-- One more operand. -/
def withOperand (risk : Risk) (word : Text) : Risk :=
  { risk with
    wildcard := isWildcard word || risk.wildcard
    operandCount := risk.operandCount + 1 }

/-- One more option. -/
def withOption (risk : Risk) (word : Text) : Risk :=
  let effects := flagEffects word
  { risk with
    recursive := effects.recursive || risk.recursive
    force := effects.force || risk.force }

/-- The risk of the words after the delete command.  Every option counts, known or not, up to the
first bare double dash. -/
def ofWords : List Text → Risk
  | [] => empty
  | word :: rest =>
    if word = Operands.terminator then rest.foldr (fun word risk => risk.withOperand word) empty
    else if isOptionLike word then (ofWords rest).withOption word
    else (ofWords rest).withOperand word

/-- The risk of a command whose program is the delete command; the line is not cut at operators. -/
def ofCommand? (command : Text) : Option Risk :=
  match (Prefix.split (words command.trim)).2 with
  | program :: arguments => if program = deleteCommand then some (ofWords arguments) else none
  | [] => none

end Risk

end SafeDelete
