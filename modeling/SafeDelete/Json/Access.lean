/-
Module: SafeDelete.Json.Access
Purpose: Looking into values of any kind, and what is said where their kind does not allow it.
Main exports: Json.Misuse, Json.Misuse.message, Json.fields, Json.elements, Json.assign
-/
import SafeDelete.Json.Value
import SafeDelete.Text.Quoted

namespace SafeDelete.Json

/-- A value that was used as only other kinds of values can be. -/
inductive Misuse where
  /-- It was asked for something by a name that its kind does not know. -/
  | attribute (name : Text) (found : Kind)
  /-- A key was looked up in it. -/
  | lookup (found : Kind)
  /-- A key of it was given a value. -/
  | assignment (found : Kind)
  /-- Its elements were asked for. -/
  | iteration (found : Kind)
  /-- It was looked for in a set. -/
  | hashing (found : Kind)
  /-- It was to be joined with texts, as the one at this index. -/
  | joining (index : Nat) (found : Kind)
  deriving Repr, DecidableEq

namespace Misuse

/-- What is said about a key that is no index of a list. -/
def listIndexText : Text := "list indices must be integers or slices, not str"

/-- The wording of a misuse. -/
def message : Misuse → Text
  | .attribute name found => found.name.quoted ++ " object has no attribute " ++ name.quoted
  | .lookup .arr => listIndexText
  | .lookup .str => "string indices must be integers, not 'str'"
  | .lookup found => found.name.quoted ++ " object is not subscriptable"
  | .assignment .arr => listIndexText
  | .assignment found => found.name.quoted ++ " object does not support item assignment"
  | .iteration found => found.name.quoted ++ " object is not iterable"
  | .hashing found => "unhashable type: " ++ found.name.quoted
  | .joining index found =>
    "sequence item " ++ decimal index ++ ": expected str instance, " ++ found.name ++ " found"

end Misuse

/-- The fields of an object. -/
def fields : Json → Except Misuse Fields
  | .obj fields => .ok fields
  | value => .error (.attribute "get" value.kind)

/-- The elements of a value: the items of a list, the characters of a text, the keys of an
object. -/
def elements : Json → Except Misuse (List Json)
  | .arr items => .ok items
  | .str text => .ok (text.map fun c => .str [c])
  | .obj fields => .ok (fields.map fun field => .str field.1)
  | value => .error (.iteration value.kind)

/-- An object with a key given a value. -/
def assign (target : Json) (key : Text) (value : Json) : Except Misuse Json :=
  match target with
  | .obj fields => .ok (.obj (Fields.set key value fields))
  | _ => .error (.assignment target.kind)

end SafeDelete.Json
