import ResourceEditor.Proofs.Command.Drafting
import ResourceEditor.Proofs.Edit.Carriage
import ResourceEditor.Proofs.Edit.Sparing
import ResourceEditor.Proofs.Wire.Agreement
/-
This file follows a resource through its update: what the controller has sent and no assignment is
about, the controller gets back.
-/

namespace ResourceEditor

namespace EditOptions

/-- The paths that are assigned to. An assignment that cannot be read has none. -/
def assigned (edit : EditOptions) : List Path :=
  edit.assignments.filterMap fun raw => (Editing.readAssignment raw).toOption.map Prod.fst

/-- A path is left alone: nothing is assigned there or around it. -/
def LeavesAlone (edit : EditOptions) (path : Path) : Prop :=
  ∀ assigned ∈ edit.assigned, ¬ assigned <+: path

instance (edit : EditOptions) (path : Path) : Decidable (edit.LeavesAlone path) :=
  inferInstanceAs (Decidable (∀ assigned ∈ edit.assigned, ¬ assigned <+: path))

theorem mem_assigned {edit : EditOptions} {raw value : String} {path : Path}
    (member : raw ∈ edit.assignments) (read : Editing.readAssignment raw = .ok (path, value)) :
    path ∈ edit.assigned :=
  List.mem_filterMap.mpr ⟨raw, member, by rw [read]; rfl⟩

/-- Assignments spare what they leave alone. -/
theorem moves_spares (edit : EditOptions) (schema : Schema) (resource : Resource) :
    Editing.Moves schema
      (fun old new => (Value.record old).Spares edit.LeavesAlone (.record new))
      (Editing.assignAll resource edit.assignments) := by
  refine Editing.moves_assignAll (fun model => .refl _ _)
    (fun first second third here later => here.trans later)
    (fun list model next done => Record.spares_append _ done) resource ?_
  intro raw member path value read model next done
  exact (Record.spares_setScalar done).mono fun other free => free path (mem_assigned member read)

end EditOptions

namespace Drafting

variable {world : World} {progress : Progress} {connection : Connection} {resource : Resource}
  {id : String} {edit : EditOptions} {along : Record → Record → Prop} {write : Request}

/-- Without a document of the user's, a change starts from the form of what is fetched. -/
theorem looks_change (connection : Connection) (id : String) (own : edit.fromFile = none)
    (moves : Editing.Moves resource.schema along (Editing.assignAll resource edit.assignments)) :
    (Action.placeOf resource id >>= fun path =>
        Action.startUpdate connection resource path edit).Looks world progress []
      fun session log => ∃ path fetch members model, resource.path? id = some path ∧
        connection.client.request .get path none = .ok fetch ∧ log = [fetch] ∧
        (world.controller [fetch]).decode = .ok (.object members) ∧
        along (resource.schema.normalize (Value.ofMembers (Json.membersFitting members))) model ∧
        session = Session.ofModel resource.schema (.update path) model := by
  refine (Action.looks_placeOf resource id).bind fun path log ⟨place, same⟩ => ?_
  subst same
  refine (Action.looks_startUpdate connection resource path edit moves).mono ?_
  rintro session log ⟨fetch, members, start, model, asks, rfl, answered, starts, moved, rfl⟩
  rw [starts own] at moved
  exact ⟨path, fetch, members, model, place, asks, rfl, answered, moved, rfl⟩

/-- A change of a resource that reaches its write has fetched the resource before, and sends the
form of what it fetched as the assignments have left it. -/
theorem asked_change (dryRun : Bool) (own : edit.fromFile = none)
    (moves : Editing.Moves resource.schema along (Editing.assignAll resource edit.assignments))
    (asked : write ∈ (((Drafting.change resource id edit).command dryRun).observe world progress).2)
    (changes : write.method ≠ .get) :
    ∃ connection path fetch members model,
      world.connection progress = .ok connection ∧ resource.path? id = some path ∧
      connection.client.request .get path none = .ok fetch ∧
      (world.controller [fetch]).decode = .ok (.object members) ∧
      along (resource.schema.normalize (Value.ofMembers (Json.membersFitting members))) model ∧
      connection.client.request .patch path (some (Record.toJson model.pruned)) = .ok write ∧
      (((Drafting.change resource id edit).command dryRun).observe world progress).2 =
        [fetch, write] := by
  rw [Command.observe_eq, action_change, Action.observe_bind, Connection.observe_connect] at asked ⊢
  cases found : world.connection progress with
  | error error =>
      rw [found] at asked
      cases asked
  | ok connection =>
      have looks : Action.Looks _ world progress [] _ := looks_change connection id own moves
      obtain ⟨result, fetches, gets, drafts, looked⟩ := looks
      have drafted : Action.observe _ world progress [] = _ := looked world.options.output
      rw [found] at asked
      dsimp only [List.nil_append] at asked drafts drafted ⊢
      rw [Action.observe_bind, drafted] at asked ⊢
      cases result with
      | error error => exact absurd (gets write asked) changes
      | ok session =>
          obtain ⟨path, fetch, members, model, place, asks, rfl, answered, moved, rfl⟩ :=
            drafts session rfl
          obtain ⟨sent, log, either⟩ := Action.asked_finish dryRun resource connection
          dsimp only at asked ⊢
          rw [log] at asked ⊢
          have late := (List.mem_append.mp asked).resolve_left fun there =>
            changes (gets write there)
          cases either with
          | inl none =>
              rw [none] at late
              cases late
          | inr all =>
              rw [all] at late
              obtain ⟨alone, made⟩ := Client.of_mem_sends late
              rw [all, alone]
              exact ⟨connection, path, fetch, members, model, rfl, place, asks, answered, moved,
                made, rfl⟩

end Drafting

namespace Command

variable {world : World} {progress : Progress} {resource : Resource} {id : String}
  {edit : EditOptions} {patch : Request}

/-- An update loses nothing that it was not asked to change. If it reaches its write, it has fetched
one document and sends one back, which everything is carried over to that is left alone, declared or
not. -/
theorem update_carries (own : edit.fromFile = none)
    (asked : patch ∈ ((updateResource resource id edit).observe world progress).2)
    (writes : patch.method = .patch) :
    ∃ connection path fetch members body,
      world.connection progress = .ok connection ∧ resource.path? id = some path ∧
      connection.client.request .get path none = .ok fetch ∧
      (world.controller [fetch]).decode = .ok (.object members) ∧
      connection.client.request .patch path (some body) = .ok patch ∧
      ((updateResource resource id edit).observe world progress).2 = [fetch, patch] ∧
      ((Json.object members).isExact = true →
        resource.schema.Carries edit.LeavesAlone (.object members) body) := by
  have changes : patch.method ≠ .get := by
    rw [writes]
    decide
  obtain ⟨connection, path, fetch, members, model, found, place, asks, answered, spares, made,
    log⟩ := Drafting.asked_change edit.dryRun own (edit.moves_spares resource.schema resource)
      asked changes
  refine ⟨connection, path, fetch, members, _, found, place, asks, answered, made, log, ?_⟩
  intro lossless
  rw [Value.ofMembers_membersFitting (Json.fits_of_isExact _ lossless)] at spares
  exact Schema.carries_of_spares resource.isDistinct lossless spares

section Lab

/-- A policy in a lab, with a note that no field is declared for and a priority that is a text. -/
def labNoted : Reply :=
  .answered 200 ("\x7b\"name\":\"p\",\"note\":\"keep\",\"traffic_rules\":[" ++
    "\x7b\"priority\":\"5\",\"tags\":[\"a\",\"b\"]\x7d]\x7d")

def labNotes : World where
  options := { controller := some "http://[::1]" }
  controller := fun _ => labNoted

/-- Gives the policy another name. -/
def labRenaming : EditOptions := { assignments := ["name=q"] }

def labUpdate : Command := .updateResource .trafficPolicy "tp-1" labRenaming

def labNote : Path := [.field "note"]

def labPriority : Path := [.field "traffic_rules", .index 0, .field "priority"]

def labTag : Path := [.field "traffic_rules", .index 0, .field "tags", .index 1]

/-- The text that the policy has at a path. -/
def labText? (path : Path) : Option String :=
  match (Json.object labNoted.members).at? path with
  | some (.string text) => some text
  | _ => none

theorem at?_of_labText? {path : Path} {text : String} (held : labText? path = some text) :
    (Json.object labNoted.members).at? path = some (.string text) := by
  rw [labText?] at held
  split at held
  next there =>
    cases held
    exact there
  next => cases held

theorem labUpdate_writes :
    ∃ patch ∈ (labUpdate.observe labNotes {}).2, patch.method = .patch := by
  have writes : ((labUpdate.observe labNotes {}).2.any fun request =>
      request.method == .patch) = true := by decide +kernel
  obtain ⟨patch, asked, same⟩ := List.any_eq_true.mp writes
  exact ⟨patch, asked, eq_of_beq same⟩

/-- The note and the tags come back, and so does the priority, as a number. -/
theorem labUpdate_carries :
    ∃ patch body, labRenaming.fromFile = none ∧ patch ∈ (labUpdate.observe labNotes {}).2 ∧
      patch.method = .patch ∧ patch.body = some body ∧
      body.at? labNote = some (.string "keep") ∧ body.at? labTag = some (.string "b") ∧
      body.at? labPriority = some (.int 5) := by
  obtain ⟨patch, asked, writes⟩ := labUpdate_writes
  obtain ⟨_, _, _, members, body, _, _, _, answered, made, _, carries⟩ :=
    update_carries rfl asked writes
  have fetched : labNoted.decode = .ok (.object labNoted.members) :=
    Reply.decode_of_members (by decide +kernel)
  have same : members = labNoted.members :=
    Json.object.inj (Except.ok.inj (answered.symm.trans fetched))
  rw [same] at carries
  obtain ⟨lossless, note, tag, priority⟩ : (Json.object labNoted.members).isExact = true ∧
      labText? labNote = some "keep" ∧ labText? labTag = some "b" ∧
      labText? labPriority = some "5" := by decide +kernel
  have carried {path : Path} {text : String} {arrived : Json} :=
    (carries lossless).scalars path (.string text) arrived
  exact ⟨patch, body, rfl, asked, writes, Client.body_of_request made,
    carried (by decide +kernel) (at?_of_labText? note) rfl rfl,
    carried (by decide +kernel) (at?_of_labText? tag) rfl rfl,
    carried (by decide +kernel) (at?_of_labText? priority) rfl rfl⟩

end Lab

end Command

end ResourceEditor
