import ResourceEditor.Proofs.Command.Editing
import ResourceEditor.Proofs.Command.Observation
import ResourceEditor.Proofs.Edit.Route
import ResourceEditor.Proofs.Session.Loading
/-
This file cuts the commands that fill in a form in two: a form is drafted, where nothing is changed
and nothing is sent, and then it is shown or sent.
-/

namespace ResourceEditor

/-- The commands that fill in a form, without whether it is only shown. -/
inductive Drafting where
  | newApp (options : AppOptions)
  | newPolicy (edit : EditOptions)
  | change (resource : Resource) (id : String) (edit : EditOptions)

namespace Drafting

def command (dryRun : Bool) : Drafting → Command
  | .newApp options => .createApp { options with edit := { options.edit with dryRun } }
  | .newPolicy edit => .createPolicy { edit with dryRun }
  | .change resource id edit => .updateResource resource id { edit with dryRun }

def resource : Drafting → Resource
  | .newApp _ => .app
  | .newPolicy _ => .trafficPolicy
  | .change resource _ _ => resource

variable {m : Type → Type} [Monad m]

/-- The session in which the form is filled in. -/
def form : Drafting → Action m Session
  | .newApp options => do
      let session ← Action.startCreate .app options.edit
      Action.runEdits
        (do options.fillIn
            Editing.assignAll .app options.edit.assignments) session
  | .newPolicy edit => do
      if edit.fromFile.isNone && edit.assignments.isEmpty then
        throw (.badValue "policy" "nothing to create: pass --from-file and/or --set")
      let session ← Action.startCreate .trafficPolicy edit
      Action.runEdits (Editing.assignAll .trafficPolicy edit.assignments) session
  | .change resource id edit => do
      let connection ← Connection.connect
      Action.startUpdate connection resource (← Action.placeOf resource id) edit

end Drafting

namespace Action

/-- Shows a drafted form, or sends it over the connection that it was drafted on. -/
def finish {m : Type → Type} [Monad m] (dryRun : Bool) (resource : Resource)
    (connection : Connection) (session : Session) : Action m Unit :=
  if dryRun then preview resource session else submit resource connection session

variable {world : World} {progress : Progress} {asked : List Request} {schema : Schema}
  {along : Record → Record → Prop}

theorem observe_runEdits (edits : Editing Unit) (session : Session) (world : World)
    (progress : Progress) (asked : List Request) :
    (runEdits edits session).observe world progress asked =
      ((match edits.run.run session with
        | (.ok (), next) => .ok next
        | (.error error, _) => .error error, progress), asked) := by
  rw [runEdits]
  cases edits.run.run session with
  | mk result next => cases result <;> rfl

theorem looks_runEdits {edits : Editing Unit} (moves : Editing.Moves schema along edits)
    (target : Target) (model : Record) :
    (runEdits edits (Session.ofModel schema target model)).Looks world progress asked
      fun session log => log = asked ∧
        ∃ next, along model next ∧ session = Session.ofModel schema target next := by
  refine looks_of_observe _ ?_ fun format =>
    observe_runEdits edits _ (world.showing format) progress asked
  obtain ⟨next, same, moved⟩ := moves target model
  cases ran : edits.run.run (Session.ofModel schema target model) with
  | mk result session =>
      rw [ran] at same
      intro value given
      cases result with
      | ok _ =>
          cases given
          exact ⟨rfl, next, moved, same⟩
      | error error => cases given

/-- Who loads a resource makes one request for it. -/
theorem looks_load (client : Client) (schema : Schema) (path : String) :
    (ask fun carrier => Session.load carrier client schema path).Looks world progress asked
      fun answer log => ∀ session, answer = .ok session →
        ∃ fetch members, client.request .get path none = .ok fetch ∧ log = asked ++ [fetch] ∧
          (world.controller log).decode = .ok (.object members) ∧
          session = Session.ofModel schema (.update path)
            (schema.normalize (Value.ofMembers (Json.membersFitting members))) := by
  cases made : client.request .get path none with
  | error error =>
      refine looks_ask (.error error.toFailure) (List.forall_mem_nil _) ?_ ?_
      · intro session opened
        cases opened
      · rw [Session.run_load, Client.run_exchange_error world.controller asked made,
          List.append_nil]
        rfl
  | ok fetch =>
      refine looks_ask ((Client.fetched path (world.controller (asked ++ [fetch])).decode).bind
          (Session.ofFetched schema path))
        (List.forall_mem_singleton.mpr (Client.method_of_request made)) ?_ ?_
      · intro session opened
        obtain ⟨members, answered, same⟩ := Session.eq_of_opened opened
        exact ⟨fetch, members, rfl, rfl, answered, same⟩
      · rw [Session.run_load, Client.run_exchange world.controller asked made]

/-- A change of a resource starts from what is fetched, unless a document takes its place. -/
theorem looks_startUpdate (connection : Connection) (resource : Resource) (path : String)
    (edit : EditOptions)
    (moves : Editing.Moves resource.schema along
      (Editing.assignAll resource edit.assignments)) :
    (startUpdate connection resource path edit).Looks world progress asked fun session log =>
      ∃ fetch members start next, connection.client.request .get path none = .ok fetch ∧
        log = asked ++ [fetch] ∧ (world.controller log).decode = .ok (.object members) ∧
        (edit.fromFile = none →
          start = resource.schema.normalize (Value.ofMembers (Json.membersFitting members))) ∧
        along start next ∧ session = Session.ofModel resource.schema (.update path) next := by
  refine (looks_load connection.client resource.schema path).bind fun answer log loaded => ?_
  refine (looks_orFail _ answer).bind fun session log ⟨opened, same⟩ => ?_
  subst same
  obtain ⟨fetch, members, asks, rfl, answered, rfl⟩ := loaded session opened
  cases file : edit.fromFile with
  | none =>
      refine (looks_runEdits moves _ _).mono ?_
      rintro _ _ ⟨rfl, next, moved, rfl⟩
      exact ⟨fetch, members, _, next, asks, rfl, answered, fun _ => rfl, moved, rfl⟩
  | some name =>
      refine (looks_readDocument name).bind fun json log same => ?_
      subst same
      refine (looks_orFail _ _).bind fun model log ⟨_, same⟩ => ?_
      subst same
      refine (looks_runEdits moves _ model).mono ?_
      rintro _ _ ⟨rfl, next, moved, rfl⟩
      exact ⟨fetch, members, model, next, asks, rfl, answered, nofun, moved, rfl⟩

theorem looks_placeOf (resource : Resource) (id : String) :
    (placeOf resource id : Action _ _).Looks world progress asked fun path log =>
      resource.path? id = some path ∧ log = asked := by
  rw [placeOf]
  cases resource.path? id with
  | none => exact looks_throw _
  | some path => exact looks_pure ⟨rfl, rfl⟩

end Action

namespace Drafting

/-- A change is drafted over the connection that it goes out on. -/
theorem action_change (resource : Resource) (id : String) (edit : EditOptions) (dryRun : Bool) :
    ((command dryRun (.change resource id edit)).action : Action (StateM (List Request)) Unit) =
      Connection.connect >>= fun connection =>
        (Action.placeOf resource id >>= fun path =>
          Action.startUpdate connection resource path edit) >>=
        Action.finish dryRun resource connection := by
  simp only [bind_assoc]
  rfl

variable {world : World} {progress : Progress} {connection : Connection}

end Drafting

namespace Action

variable {world : World} {progress : Progress} {asked : List Request} {schema : Schema}
  {target : Target} {model : Record}

theorem submit_ofModel (resource : Resource) (connection : Connection) :
    (submit resource connection (Session.ofModel schema target model) :
        Action (StateM (List Request)) Unit) =
      match model.violations schema with
      | [] => do
          let write := ⟨target, model.pruned⟩
          match ← ask fun carrier => connection.client.save carrier write with
          | .ok saved => do
              tellSuccess (Session.ofModel schema target model).successText
              present saved.view
          | .error failure => throw (connection.error target.path failure)
      | violations => failInvalid resource violations := by
  have begins : (Session.ofModel schema target model).begin =
      match model.violations schema with
      | [] =>
          ({ Session.ofModel schema target model with
              submitting := true, waiting := [⟨target, model.pruned⟩] },
            { answer := .pending, sent := some ⟨target, model.pruned⟩ })
      | violations => (Session.ofModel schema target model, { answer := .invalid violations }) := by
    show (match model.violations schema with | [] => _ | violations => _) = _
    cases model.violations schema <;> rfl
  rw [submit, begins]
  cases model.violations schema with
  | nil =>
      refine bind_congr fun answer => ?_
      cases answer <;> rfl
  | cons first rest => rfl

/-- A form that is not valid is not sent. -/
theorem submit_invalid (resource : Resource) (connection : Connection)
    (invalid : model.violations schema ≠ []) :
    (submit resource connection (Session.ofModel schema target model) :
        Action (StateM (List Request)) Unit) = failInvalid resource (model.violations schema) := by
  rw [submit_ofModel]
  cases found : model.violations schema with
  | nil => exact absurd found invalid
  | cons first rest => rfl

/-- A valid form is sent in one request, if one can be made. -/
theorem asked_submit (resource : Resource) (connection : Connection)
    (valid : model.violations schema = []) :
    ((submit resource connection (Session.ofModel schema target model)).observe world progress
        asked).2 = asked ++ connection.client.sends ⟨target, model.pruned⟩ := by
  rw [submit_ofModel, valid, ← Client.asked_save world.controller]
  simp only [observe_bind, observe_ask]
  generalize (connection.client.save world.controller.carrier ⟨target, model.pruned⟩).run asked =
    saved
  obtain ⟨answer, log⟩ := saved
  cases answer with
  | error failure => rfl
  | ok saved => simp only [observe_bind, observe_tellSuccess, observe_present]

theorem preview_invalid (resource : Resource) (invalid : model.violations schema ≠ []) :
    (preview resource (Session.ofModel schema target model) : Action (StateM (List Request)) Unit) =
      failInvalid resource (model.violations schema) := by
  rw [preview]
  show (match model.violations schema with | [] => _ | violations => _) = _
  cases found : model.violations schema with
  | nil => exact absurd found invalid
  | cons first rest => rfl

/-- A valid form is shown as it would be sent. -/
theorem observe_preview (resource : Resource) (valid : model.violations schema = []) :
    (preview resource (Session.ofModel schema target model)).observe world progress asked =
      ((.ok (), if world.options.quiet then progress
        else { progress with
          output := printed (model.pruned.view.render world.options.output) progress.output }),
        asked) := by
  rw [preview]
  show ((match model.violations schema with | [] => _ | violations => _ : Action _ _)).observe
    world progress asked = _
  rw [valid]
  exact observe_present _

/-- At its end a command makes no request, or the one that the form is sent in. -/
theorem asked_finish (dryRun : Bool) (resource : Resource) (connection : Connection) :
    ∃ sent,
      ((finish dryRun resource connection (Session.ofModel schema target model)).observe world
        progress asked).2 = asked ++ sent ∧
      (sent = [] ∨ sent = connection.client.sends ⟨target, model.pruned⟩) := by
  by_cases valid : model.violations schema = []
  · cases dryRun with
    | true =>
        refine ⟨[], ?_, .inl rfl⟩
        rw [finish, if_pos rfl, observe_preview resource valid, List.append_nil]
    | false =>
        refine ⟨_, ?_, .inr rfl⟩
        rw [finish, if_neg Bool.false_ne_true, asked_submit resource connection valid]
  · refine ⟨[], ?_, .inl rfl⟩
    have fails : (finish dryRun resource connection (Session.ofModel schema target model) :
        Action (StateM (List Request)) Unit) = failInvalid resource (model.violations schema) := by
      cases dryRun with
      | true => exact preview_invalid resource valid
      | false => exact submit_invalid resource connection valid
    rw [fails, observe_failInvalid, List.append_nil]

end Action

end ResourceEditor
