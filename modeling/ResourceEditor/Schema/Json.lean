import ResourceEditor.Json.Basic
import ResourceEditor.Schema.Basic
/-
This file writes schemas as JSON documents. What a field does not have is left out.
-/

namespace ResourceEditor

def boundJson (name : String) (bound : Option Int64) : Members Json :=
  match bound with
  | some value => [(name, .int value.toInt)]
  | none => []

def ScalarRule.toJson (rule : ScalarRule) : Members Json :=
  [("kind", .string rule.kind.name)] ++ boundJson "minimum" rule.minimum ++
    boundJson "maximum" rule.maximum ++
    (match rule.pattern with
    | some pattern =>
        [("pattern", .string pattern.source), ("validation_message", .string pattern.message)]
    | none => []) ++
    (if rule.allowed.isEmpty then [] else [("enum", .array (rule.allowed.map .string))]) ++
    (match rule.default with
    | some value => [("default", .string value)]
    | none => [])

def OrderRule.toJson (rule : OrderRule) : Json :=
  .object
    [("check", .string "not_above"), ("lower", .string rule.lower), ("upper", .string rule.upper)]

mutual

def Schema.toJson : Schema → Json
  | ⟨title, fields, required, orders⟩ =>
      .object ([("title", .string title), ("fields", .object (Schema.fieldsJson fields))] ++
        (if required.isEmpty then [] else [("required", .array (required.map .string))]) ++
        (if orders.isEmpty then [] else [("checks", .array (orders.map OrderRule.toJson))]))

def Schema.fieldsJson : List (String × Field) → List (String × Json)
  | [] => []
  | (name, field) :: rest => (name, field.toJson) :: Schema.fieldsJson rest

def Field.toJson : Field → Json
  | ⟨title, readOnly, shape⟩ =>
      .object
        ([("title", .string title)] ++
          (if readOnly then [("read_only", .bool true)] else []) ++ shape.toJson)

def Shape.toJson : Shape → List (String × Json)
  | .scalar rule => ("type", .string "scalar") :: rule.toJson
  | .composite schema => [("type", .string "composite"), ("schema", schema.toJson)]
  | .list item dynamic =>
      [("type", .string "list"), ("item", item.toJson)] ++
        (if dynamic then [("dynamic", .bool true)] else [])

end

end ResourceEditor
