/-
Module: SafeDelete.Json.Value
Purpose: JSON values whose numbers keep their kind and whose objects keep their order.
Main exports: Json, Json.Fields, Json.Fields.get?, Json.Fields.set, Json.isFalsy, Json.kind
-/
import SafeDelete.Number.Binary64
import SafeDelete.Text.Basic

namespace SafeDelete

/-- A JSON value.  Whole numbers are exact and apart from doubles; the fields of an object stand
in the order in which their keys came up first. -/
inductive Json where
  | null
  | bool (value : Bool)
  | int (value : Int)
  | float (value : Binary64)
  | str (value : Text)
  | arr (items : List Json)
  | obj (fields : List (Text × Json))
  deriving Inhabited

namespace Json

/-- The fields of an object. -/
abbrev Fields := List (Text × Json)

namespace Fields

/-- The value of a key. -/
def get? (key : Text) : Fields → Option Json
  | [] => none
  | (name, value) :: rest => if name = key then some value else get? key rest

/-- Give a key a value: in its place if it has one, else at the end. -/
def set (key : Text) (value : Json) : Fields → Fields
  | [] => [(key, value)]
  | (name, old) :: rest =>
    if name = key then (name, value) :: rest else (name, old) :: set key value rest

/-- Set the given fields one after the other. -/
def setAll (fields updates : Fields) : Fields :=
  updates.foldl (fun fields update => set update.1 update.2 fields) fields

/-- Fields as written, where a key may occur again: its first place, its last value. -/
def ofList (written : Fields) : Fields :=
  setAll [] written

end Fields

/-- Values that count as absent: null, false, zero and whatever is empty. -/
def isFalsy : Json → Bool
  | .null => true
  | .bool value => !value
  | .int value => value == 0
  | .float value => value.isZero
  | .str value => value.isEmpty
  | .arr items => items.isEmpty
  | .obj fields => fields.isEmpty

/-- The kinds of values. -/
inductive Kind where
  | null
  | bool
  | int
  | float
  | str
  | arr
  | obj
  deriving Repr, DecidableEq

/-- The kind of a value. -/
def kind : Json → Kind
  | .null => .null
  | .bool _ => .bool
  | .int _ => .int
  | .float _ => .float
  | .str _ => .str
  | .arr _ => .arr
  | .obj _ => .obj

/-- The name of a kind in messages. -/
def Kind.name : Kind → Text
  | .null => "NoneType"
  | .bool => "bool"
  | .int => "int"
  | .float => "float"
  | .str => "str"
  | .arr => "list"
  | .obj => "dict"

end Json

end SafeDelete
