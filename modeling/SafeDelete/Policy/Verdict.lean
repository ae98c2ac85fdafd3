/-
Module: SafeDelete.Policy.Verdict
Purpose: Which deletes are refused, and what is said about them.
Main exports: Level, Danger, judge
-/
import SafeDelete.Policy.Risk

namespace SafeDelete

/-- How strict the policy is. -/
inductive Level where
  | normal
  | strict
  deriving Repr, DecidableEq

/-- The level that a text names; strict, unless it is plainly the normal one. -/
def Level.ofText (text : Text) : Level :=
  if text = "normal" then .normal else .strict

/-- How a level is written. -/
def Level.text : Level → Text
  | .normal => "normal"
  | .strict => "strict"

/-- Why a delete is refused. -/
inductive Danger where
  | forcedRecursive
  | recursive
  | wildcard
  deriving Repr, DecidableEq

/-- What was found. -/
def Danger.reason : Danger → Text
  | .forcedRecursive => "Detected a force+recursive delete (rm -rf)"
  | .recursive => "Detected a recursive delete (rm -r)"
  | .wildcard => "Detected a wildcard delete (rm *)"

/-- What to do instead. -/
def Danger.suggestion : Danger → Text
  | .forcedRecursive => "Use a trash command instead of rm -rf"
  | .recursive => "Use a trash command instead of rm -r"
  | .wildcard => "Use a trash command or be explicit about files"

/-- The danger of a risk: at the normal level only a forced and recursive delete, at the strict one
every recursive one and every wildcard. -/
def Risk.danger? (risk : Risk) : Level → Option Danger
  | .normal => if risk.recursive && risk.force then some .forcedRecursive else none
  | .strict =>
    if risk.recursive then some .recursive else if risk.wildcard then some .wildcard else none

/-- Why a command is refused at a level, if it is. -/
def judge (command : Text) (level : Level) : Option Danger :=
  (Risk.ofCommand? command).bind (·.danger? level)

end SafeDelete
