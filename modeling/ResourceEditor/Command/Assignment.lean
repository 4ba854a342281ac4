import ResourceEditor.Command.Basic
import ResourceEditor.Command.Error
import ResourceEditor.Session.Basic
/-
This file fills in forms from what is said on a command line.
-/

namespace ResourceEditor

/-- Work on the form of a session. Edits made before one that fails stay made. -/
abbrev Editing (α : Type) := ExceptT CommandError (StateM Session) α

namespace Editing

/-- One edit of the form. -/
def attempt (change : Schema → Record → Except EditError Record) :
    StateM Session (Except EditorError Unit) :=
  modifyGet fun session =>
    let (next, effect) := session.edit fun model => (change session.schema model).mapError .edit
    match effect.answer with
    | .refused error => (.error error, next)
    | _ => (.ok (), next)

/-- The error of an edit under the name that commands have for it. -/
def orFail (resource : Resource) (result : Except EditorError Unit) : Editing Unit :=
  match result with
  | .ok () => return
  | .error error => throw (.ofEdit resource error)

/-- The list whose next entry is missing, if an edit failed for that alone. -/
def missingEntry? : Except EditorError Unit → Option Path
  | .error (.edit (.indexOutOfRange list index length)) =>
      if index = length then some list else none
  | _ => none

/-- Sets the scalar at a path. A list whose next entry is named gets a blank one first, for at most
as many lists as the number says. -/
def assignWithin (resource : Resource) (path : Path) (raw : String) : Nat → Editing Unit
  | 0 => do orFail resource (← attempt fun schema model => model.setScalar schema path raw)
  | appends + 1 => do
      let result ← attempt fun schema model => model.setScalar schema path raw
      match missingEntry? result with
      | some list => do
          orFail resource (← attempt fun schema model => model.append schema list)
          assignWithin resource path raw appends
      | none => orFail resource result

/-- The lists that a path leads through. -/
def listCount (path : Path) : Nat :=
  path.countP fun segment =>
    match segment with
    | .index _ => true
    | .field _ => false

/-- Sets the scalar at a path, where a path can name the next entry of a list that it leads
through. -/
def assign (resource : Resource) (path : Path) (raw : String) : Editing Unit :=
  assignWithin resource path raw (listCount path)

/-- The path and the text of an assignment. -/
def readAssignment (raw : String) : Except CommandError (Path × String) :=
  match Text.splitOnce '=' raw with
  | none => .error (.badValue "set" ("expected PATH=VALUE, got '" ++ raw ++ "'"))
  | some (path, value) =>
      match Path.ofUser (Text.trim path) with
      | .ok path => .ok (path, value)
      | .error error => .error (.ofEditorError (.edit error))

def assignAll (resource : Resource) (assignments : List String) : Editing Unit :=
  assignments.forM fun raw => do
    let (path, value) ← readAssignment raw
    assign resource path value

end Editing

namespace AppOptions

open Editing

/-- The number of a port and its protocol, if there is one after a slash. -/
def readPort (raw : String) : String × Option String :=
  match Text.splitOnce '/' raw with
  | some (port, protocol) => (port, some (Text.asciiLower protocol))
  | none => (raw, none)

def readFeature (raw : String) : Except CommandError (String × String) :=
  match Text.splitOnce '=' raw with
  | some feature => .ok feature
  | none => .error (.badValue "feature" ("expected KEY=VALUE, got '" ++ raw ++ "'"))

def assignField (field raw : String) : Editing Unit := assign .app [.field field] raw

/-- Sets a field of an entry of a list. -/
def assignEntry (list : String) (position : Nat) (field raw : String) : Editing Unit :=
  assign .app [.field list, .index position, .field field] raw

def assignPort (raw : String) (position : Nat) : Editing Unit := do
  let (port, protocol) := readPort raw
  assignEntry "ports" position "port" port
  match protocol with
  | some protocol => assignEntry "ports" position "protocol" protocol
  | none => return

def assignFeature (raw : String) (position : Nat) : Editing Unit := do
  let (key, value) ← readFeature raw
  assignEntry "epafeatures" position "key" key
  assignEntry "epafeatures" position "value" value

/-- Fills in the fields that were given, then an entry for each port and each feature. -/
def fillIn (options : AppOptions) : Editing Unit := do
  options.fields.forM fun (field, raw) => assignField field raw
  options.ports.zipIdx.forM fun (raw, position) => assignPort raw position
  options.features.zipIdx.forM fun (raw, position) => assignFeature raw position

end AppOptions

end ResourceEditor
