import ResourceEditor.Command.Editor
import ResourceEditor.Wire.Resource
/-
This file holds the commands that look at resources and change nothing.
-/

namespace ResourceEditor

namespace Node

def text (node : Record) (name : String) : String :=
  ((Members.get? node name).bind Value.text?).getD ""

/-- The identifier of a node; a node without one goes by its name. -/
def label (node : Record) : String :=
  if Members.has node "id" then text node "id" else text node "name"

def view (nodes : List Record) : View :=
  View.ofList ["ID", "Name", "Location", "Serial"]
    (fun node => ["id", "name", "location", "serial"].map (text node)) Record.toJson label nodes

/-- The nodes of a document; some controllers send them without a name for the whole. -/
def collection : Json → Json
  | .array nodes => .object [("nodes", .array nodes)]
  | json => json

def ofWire (wire : Record) : List Record :=
  (((Members.get? wire "nodes").bind Value.list?).getD []).filterMap Value.record?

end Node

namespace Action

variable {m : Type → Type} [Monad m]

def resourceOf (name : String) : Action m Resource :=
  match Resource.ofName? name with
  | some resource => pure resource
  | none => throw (.ofEditorError (.unknownResource name))

def showSchema (name : String) : Action m Unit := do
  present (← resourceOf name).schema.view

/-- Tells whether the document in a file is a valid form. -/
def validate (name file : String) : Action m Unit := do
  let resource ← resourceOf name
  let model ← readForm resource.schema (← readDocument file)
  match model.violations resource.schema with
  | [] => tellSuccess (file ++ " is valid")
  | violations => failInvalid resource violations

def showResource (resource : Resource) (id : String) : Action m Unit := do
  let connection ← Connection.connect
  present (← connection.fetch (← placeOf resource id)).view

def listNodes : Action m Unit := do
  let connection ← Connection.connect
  let document ← connection.getDocument (Resource.nodes.collectionPath?.getD "/nodes")
  let model ← readForm Resource.nodes.schema (Node.collection document)
  let wire ← orFail (fun fault => .ofEditorError (.serialization fault.message))
    (model.toWire .nodes)
  present (Node.view (Node.ofWire wire))

def showInterfacePolicy (node interface : String) : Action m Unit := do
  let connection ← Connection.connect
  let policy ← connection.fetch (interfacePolicyPath node interface)
  present (← readForm Resource.nodeInterfacePolicy.schema policy.toJson).view

end Action

end ResourceEditor
