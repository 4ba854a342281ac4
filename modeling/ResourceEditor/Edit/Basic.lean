import ResourceEditor.Edit.Resolve
import ResourceEditor.Schema.Blank
/-
This file changes one place of a form and holds the edits that do so. Fields that are missing on the
way come into being as blank values, list entries never do. An edit gives a new form or fails and
changes nothing. It only looks at the shape of values: constraints are for validation.
-/

namespace ResourceEditor

/-- The member that an edit goes through: the one that is there, or a blank one. -/
def Record.memberOrBlank (model : Record) (name : String) (field : Field) : Value :=
  (Members.get? model name).getD field.blankEntry

/-- Changes the value at the end of a route that starts at the value at a path. -/
def Value.update (change : Value → Except EditError Value) (path : Path) :
    Route → Value → Except EditError Value
  | [], value => change value
  | (.field name, field) :: rest, .record members => do
      let new ← (Record.memberOrBlank members name field).update change (path.child name) rest
      return .record (Members.set members name new)
  | (.index position, _) :: rest, .list entries =>
      match entries[position]? with
      | none => .error (.indexOutOfRange path position entries.length)
      | some old => do
          let new ← old.update change (path.entry position) rest
          return .list (entries.set position new)
  | (.field _, _) :: _, _ => .error (.typeMismatch path .record)
  | (.index _, _) :: _, _ => .error (.typeMismatch path .list)

/-- Changes the value at the end of a route that starts at the form. -/
def Record.update (change : Value → Except EditError Value) (route : Route) (model : Record) :
    Except EditError Record :=
  match route with
  | (.field name, field) :: rest => do
      let new ← (Record.memberOrBlank model name field).update change [.field name] rest
      return Members.set model name new
  | _ => .error (.invalidPath "" .startsWithPosition)

/-- What a user's text becomes in a scalar field. -/
def ScalarRule.read (rule : ScalarRule) (raw : String) : Value :=
  match rule.kind with
  | .number => .number (Number.coerce raw)
  | _ => .text raw

/-- Whether a value can be an entry described by a field. -/
def Field.hasShapeOf (item : Field) (value : Value) : Bool :=
  match item.shape with
  | .scalar _ => value.isScalar
  | .composite _ => value.record?.isSome
  | .list _ _ => value.list?.isSome

namespace Record

/-- Gives the scalar at a path a new value. -/
def setScalar (schema : Schema) (model : Record) (path : Path) (raw : String) :
    Except EditError Record := do
  let route ← schema.route path
  match route.leaf?.bind Field.scalar? with
  | none => .error (.typeMismatch path .partwiseEdit)
  | some rule => model.update (fun _ => .ok (rule.read raw)) route

/-- The list field at a path, with the way to it. -/
def listRoute (schema : Schema) (path : Path) : Except EditError (Route × Field) := do
  let route ← schema.route path
  match route.leaf? with
  | none => .error (.typeMismatch path .list)
  | some field =>
      match field.item? with
      | none => .error (.typeMismatch path .list)
      | some _ => return (route, field)

/-- Adds an entry at the end of a list. -/
def push (path : Path) (entry : Value) : Value → Except EditError Value
  | .list entries => .ok (.list (entries ++ [entry]))
  | _ => .error (.typeMismatch path .list)

/-- Adds a given entry to the list at a path, if it has the shape of the list's entries. -/
def appendWith (schema : Schema) (model : Record) (path : Path) (entry : Value) :
    Except EditError Record := do
  let (route, field) ← listRoute schema path
  match field.item? with
  | none => .error (.typeMismatch path .list)
  | some item =>
      if item.hasShapeOf entry then model.update (push path entry) route
      else .error (.typeMismatch (path.entry 0) (.entryLike item.title))

/-- Adds the schema's next entry to the list at a path. -/
def append (schema : Schema) (model : Record) (path : Path) : Except EditError Record := do
  let (_, field) ← listRoute schema path
  match field.nextEntry? with
  | none => .error (.typeMismatch path .list)
  | some entry => appendWith schema model path entry

/-- Sets a field of an entry that is there. -/
def setEntryField (schema : Schema) (model : Record) (list : Path) (position : Nat)
    (name raw : String) : Except EditError Record :=
  setScalar schema model ((list.entry position).child name) raw

/-- Leaves the list at a path with the schema's next entry alone. -/
def resetList (schema : Schema) (model : Record) (path : Path) : Except EditError Record := do
  let (route, field) ← listRoute schema path
  model.update (fun _ => .ok (.list field.nextEntry?.toList)) route

def resetLists (schema : Schema) (model : Record) (paths : List Path) :
    Except EditError Record :=
  paths.foldlM (resetList schema) model

/-- Resets every dynamic list of the form itself. -/
def resetDynamic (schema : Schema) (model : Record) : Except EditError Record :=
  resetLists schema model schema.dynamicLists

end Record

end ResourceEditor
