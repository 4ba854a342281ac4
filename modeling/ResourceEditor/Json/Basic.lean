import ResourceEditor.Decimal.Binary64
import ResourceEditor.Members
/-
This file holds JSON documents. The members of an object keep their order.
-/

namespace ResourceEditor

open Decimal

inductive JsonNumber where
  | integer (value : Int)
  | float (value : Binary64)
deriving Repr, DecidableEq, Inhabited

inductive Json where
  | null
  | bool (value : Bool)
  | number (value : JsonNumber)
  | string (text : String)
  | array (elements : List Json)
  | object (members : List (String × Json))
deriving Repr, Inhabited

namespace Json

def int (value : Int) : Json := .number (.integer value)

def get? (json : Json) (name : String) : Option Json :=
  match json with
  | .object members => Members.get? members name
  | _ => none

/-- What kind of document it is, as messages name it. -/
def kindName : Json → String
  | .null => "null"
  | .bool _ => "a boolean"
  | .number _ => "a number"
  | .string _ => "a string"
  | .array _ => "an array"
  | .object _ => "an object"

end Json

end ResourceEditor
