import ResourceEditor.Command.Assignment
import ResourceEditor.Command.Connection
/-
This file holds the commands that make and change resources. A new resource is filled in before the
controller is looked for; a change starts from what the controller has.
-/

namespace ResourceEditor

namespace Action

variable {m : Type → Type} [Monad m]

/-- Where a resource is, if resources of its kind have places of their own. -/
def placeOf (resource : Resource) (id : String) : Action m String :=
  match resource.path? id with
  | some path => pure path
  | none => throw (.internal (resource.name ++ " has no endpoint"))

/-- Runs edits on a session. -/
def runEdits (edits : Editing Unit) (session : Session) : Action m Session :=
  match edits.run.run session with
  | (.ok (), next) => pure next
  | (.error error, _) => throw error

/-- A session for a new resource, blank or from a document. -/
def startCreate (resource : Resource) (edit : EditOptions) : Action m Session := do
  match resource.collectionPath? with
  | none => throw (.internal (resource.name ++ " has no collection endpoint"))
  | some path =>
      let session := Session.create resource.schema path
      match edit.fromFile with
      | none => return session
      | some file =>
          let model ← readForm resource.schema (← readDocument file)
          return { session with model }

/-- A session for a resource that the controller has, which a document can replace. -/
def startUpdate (connection : Connection) (resource : Resource) (path : String)
    (edit : EditOptions) : Action m Session := do
  let session ← orFail (connection.error path) (← ask fun carrier =>
    Session.load carrier connection.client resource.schema path)
  let session ←
    match edit.fromFile with
    | none => pure session
    | some file => do
        let model ← readForm resource.schema (← readDocument file)
        pure { session with model }
  runEdits (Editing.assignAll resource edit.assignments) session

/-- Shows what would be sent. -/
def preview (resource : Resource) (session : Session) : Action m Unit := do
  match session.model.violations session.schema with
  | [] => present session.model.pruned.view
  | violations => failInvalid resource violations

/-- Sends the form of a session and shows what the controller stored. -/
def submit (resource : Resource) (connection : Connection) (session : Session) :
    Action m Unit := do
  let (session, effect) := session.begin
  match effect.sent with
  | some write =>
      let answer ← ask fun carrier => connection.client.save carrier write
      let (session, effect) := session.reply 0 answer
      match effect.answer with
      | .submitted saved => do
          tellSuccess session.successText
          present saved.view
      | .failed failure => throw (connection.error session.target.path failure)
      | _ => throw (.internal "submit did not run")
  | none =>
      match effect.answer with
      | .invalid violations => failInvalid resource violations
      | _ => throw (.internal "submit did not run")

def submitNew (resource : Resource) (edit : EditOptions) (session : Session) : Action m Unit := do
  if edit.dryRun then preview resource session
  else submit resource (← Connection.connect) session

def createApp (options : AppOptions) : Action m Unit := do
  let session ← startCreate .app options.edit
  let session ← runEdits
    (do options.fillIn
        Editing.assignAll .app options.edit.assignments) session
  submitNew .app options.edit session

def createPolicy (edit : EditOptions) : Action m Unit := do
  if edit.fromFile.isNone && edit.assignments.isEmpty then
    throw (.badValue "policy" "nothing to create: pass --from-file and/or --set")
  let session ← startCreate .trafficPolicy edit
  submitNew .trafficPolicy edit
    (← runEdits (Editing.assignAll .trafficPolicy edit.assignments) session)

def updateResource (resource : Resource) (id : String) (edit : EditOptions) : Action m Unit := do
  let connection ← Connection.connect
  let session ← startUpdate connection resource (← placeOf resource id) edit
  if edit.dryRun then preview resource session else submit resource connection session

end Action

end ResourceEditor
