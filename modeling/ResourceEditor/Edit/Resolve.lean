import ResourceEditor.Edit.Error
import ResourceEditor.Schema.Basic
/-
This file follows paths through a schema. A path leads to a field when every name is declared where
it is used, every position follows a list, and nothing on the way is read-only.
-/

namespace ResourceEditor

/-- The steps of a path, each with the field that it leads to. -/
abbrev Route := List (Segment × Field)

namespace Field

/-- Refuses a read-only field. -/
def editable (field : Field) (path : Path) : Except EditError Field :=
  if field.readOnly then .error (.readOnlyField path) else .ok field

end Field

/-- The editable field of a name, in the record schema at a path. -/
def Schema.editableField (schema : Schema) (path : Path) (name : String) :
    Except EditError Field :=
  match schema.field? name with
  | none => .error (.unknownField (path.child name))
  | some field => field.editable (path.child name)

namespace Field

/-- Goes one step from the field at a path. -/
def descend (field : Field) (path : Path) : Segment → Except EditError Field
  | .field name =>
      match field.shape with
      | .composite schema => schema.editableField path name
      | .list _ _ => .error (.typeMismatch path .positionBeforeName)
      | .scalar _ => .error (.typeMismatch path .record)
  | .index position =>
      match field.shape with
      | .list item _ => item.editable (path.entry position)
      | _ => .error (.typeMismatch path .list)

def route (field : Field) (path : Path) : Path → Except EditError Route
  | [] => .ok []
  | segment :: rest => do
      let next ← field.descend path segment
      let below ← next.route (path ++ [segment]) rest
      return (segment, next) :: below

end Field

/-- The way of a path through the schema, or the first fault on it. -/
def Schema.route (schema : Schema) (path : Path) : Except EditError Route :=
  match path with
  | [] => .error (.invalidPath "" .empty)
  | .index _ :: _ => .error (.invalidPath path.render .startsWithPosition)
  | .field name :: rest => do
      let field ← schema.editableField [] name
      let below ← field.route [.field name] rest
      return (.field name, field) :: below

/-- The field at the end of a route. -/
def Route.leaf? (route : Route) : Option Field := route.getLast?.map Prod.snd

end ResourceEditor
