import ResourceEditor.Json.Basic
import ResourceEditor.Value.Basic
/-
This file relates the values of a form to JSON documents. A member or element that is null is left
out when it is read, and the mark for malformed numbers is written as null.
-/

namespace ResourceEditor

def Number.ofJson : JsonNumber → Number
  | .integer value => .ofInt value
  | .float value => .ofBinary64 value

namespace Value

mutual

def ofJson : Json → Option Value
  | .null => none
  | .bool flag => some (.bool flag)
  | .number value => some (.number (Number.ofJson value))
  | .string content => some (.text content)
  | .array elements => some (.list (ofElements elements))
  | .object members => some (.record (ofMembers members))

def ofElements : List Json → List Value
  | [] => []
  | element :: rest =>
      match ofJson element with
      | some entry => entry :: ofElements rest
      | none => ofElements rest

def ofMembers : List (String × Json) → List (String × Value)
  | [] => []
  | (name, json) :: rest =>
      match ofJson json with
      | some value => (name, value) :: ofMembers rest
      | none => ofMembers rest

end

mutual

def toJson : Value → Json
  | .text content => .string content
  | .number (.int value) => .int value.toInt
  | .number .notANumber => .null
  | .bool flag => .bool flag
  | .record members => .object (toMembers members)
  | .list entries => .array (toElements entries)

def toElements : List Value → List Json
  | [] => []
  | entry :: rest => entry.toJson :: toElements rest

def toMembers : List (String × Value) → List (String × Json)
  | [] => []
  | (name, value) :: rest => (name, value.toJson) :: toMembers rest

end

end Value

/-- A form is read from an object; of any other document the error is the document's kind. -/
def Record.ofJson : Json → Except String Record
  | .object members => .ok (Value.ofMembers members)
  | json => .error json.kindName

def Record.toJson (model : Record) : Json := .object (Value.toMembers model)

end ResourceEditor
