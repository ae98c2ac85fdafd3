/-
Module: SafeDelete.Hook.Response
Purpose: The answers of a hook to its host.
Main exports: Response, Response.toJson, Response.ofAction?
-/
import SafeDelete.Config.Basic

namespace SafeDelete

/-- What a hook answers. -/
inductive Response where
  | deny (reason : Text)
  | ask (reason : Text)
  | rewrite (input : Json) (reason : Text)

namespace Response

/-- The decision in an answer. -/
def decision : Response → Action
  | .deny _ => .deny
  | .ask _ => .ask
  | .rewrite _ _ => .allow

/-- The reason in an answer, tagged with what was done. -/
def taggedReason : Response → Text
  | .deny reason => "[BLOCKED] " ++ reason
  | .ask reason => "[CONFIRM] " ++ reason
  | .rewrite _ reason => "[REWRITTEN] " ++ reason

/-- The input that replaces the one asked about. -/
def updatedInput : Response → Json.Fields
  | .rewrite input _ => [("updatedInput", input)]
  | _ => []

/-- The fields that every answer has. -/
def decisionFields (response : Response) : Json.Fields := [
  ("hookEventName", .str "PreToolUse"),
  ("permissionDecision", .str response.decision.text),
  ("permissionDecisionReason", .str response.taggedReason)]

/-- An answer as an object. -/
def toJson (response : Response) : Json :=
  .obj [("hookSpecificOutput", .obj (response.decisionFields ++ response.updatedInput))]

/-- The answer for an action; to allow, none is needed. -/
def ofAction? (reason : Text) : Action → Option Response
  | .deny => some (.deny reason)
  | .ask => some (.ask reason)
  | .allow => none

end Response

end SafeDelete
