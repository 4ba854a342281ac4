import ResourceEditor.Schema.Blank
import ResourceEditor.Value.Json
/-
This file brings the resources of a controller into the form of their schema: numbers that came as
text become numbers, and dynamic lists get a first entry.
-/

namespace ResourceEditor

/-- Whether a dynamic list has to be filled: it is missing or has no entry. -/
def Record.lacksEntries (model : Record) (name : String) : Bool :=
  match Members.get? model name with
  | none => true
  | some (.list entries) => entries.isEmpty
  | some _ => false

def Field.seed (field : Field) (name : String) (model : Record) : Record :=
  if field.isDynamicList && model.lacksEntries name then
    match field.blankValue with
    | some value => Members.set model name value
    | none => model
  else model

mutual

def Schema.normalize : Schema → Record → Record
  | ⟨_, fields, _, _⟩, model => Schema.normalizeMembers fields model

def Schema.normalizeMembers : List (String × Field) → Record → Record
  | [], model => model
  | (name, field) :: rest, model =>
      let seeded := field.seed name model
      Schema.normalizeMembers rest
        (match Members.get? seeded name with
        | some value => Members.set seeded name (field.normalize value)
        | none => seeded)

def Field.normalize : Field → Value → Value
  | ⟨_, _, shape⟩, value => shape.normalize value

def Shape.normalize : Shape → Value → Value
  | .scalar rule, value =>
      match rule.kind, value with
      | .number, .text raw => .number (Number.coerce raw)
      | _, value => value
  | .composite schema, value =>
      match value with
      | .record members => .record (schema.normalize members)
      | value => value
  | .list item _, value =>
      match value with
      | .list entries => .list (entries.map item.normalize)
      | value => value

end

/-- The form that edits a resource of the controller. -/
def Record.ofResource (schema : Schema) (resource : Json) : Except String Record :=
  (Record.ofJson resource).map schema.normalize

end ResourceEditor
