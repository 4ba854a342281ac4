import ResourceEditor.Proofs.Edit.DynamicList
import ResourceEditor.Schema.Catalog
import ResourceEditor.Session.Basic
/-
This file says what it comes to when a session is reopened: every dynamic list of the form itself is
as in a new form, unless one of them is read-only, because then nothing is reset.
-/

namespace ResourceEditor

namespace Schema

/-- The names of the dynamic lists of the form itself. -/
def dynamicNames (schema : Schema) : List String :=
  Members.names (schema.fields.filter fun pair => pair.2.isDynamicList)

/-- One of the fields of a schema is a dynamic list. -/
def DeclaresDynamic (schema : Schema) (name : String) : Prop :=
  ∃ field, schema.field? name = some field ∧ field.isDynamicList = true

/-- One of the fields of a schema is a dynamic list that cannot be edited. -/
def LocksDynamic (schema : Schema) (name : String) : Prop :=
  ∃ field, schema.field? name = some field ∧ field.isDynamicList = true ∧ field.readOnly = true

variable {schema : Schema} {name : String}

theorem dynamicLists_eq (schema : Schema) :
    schema.dynamicLists = schema.dynamicNames.map fun name => [.field name] := by
  rw [dynamicLists, dynamicNames, Members.names, List.map_map]
  rfl

theorem mem_dynamicNames (distinct : schema.isDistinct = true) (name : String) :
    name ∈ schema.dynamicNames ↔ schema.DeclaresDynamic name := by
  rw [dynamicNames, Members.names, List.mem_map]
  constructor
  · rintro ⟨⟨_, field⟩, listed, rfl⟩
    obtain ⟨member, dynamic⟩ := List.mem_filter.mp listed
    exact ⟨field, Members.get?_of_mem (schema.isDistinct_iff.mp distinct).1 member, dynamic⟩
  · rintro ⟨field, declared, dynamic⟩
    exact ⟨(name, field), List.mem_filter.mpr ⟨Members.mem_of_get? declared, dynamic⟩, rfl⟩

/-- A dynamic list can be edited, or it cannot. -/
theorem DeclaresDynamic.editable_or_locked (declares : schema.DeclaresDynamic name) :
    (∃ field item, schema.HasDynamicList name field item) ∨ schema.LocksDynamic name := by
  obtain ⟨field, declared, dynamic⟩ := declares
  obtain ⟨item, shape⟩ := Field.of_isDynamicList dynamic
  cases locked : field.readOnly with
  | false => exact .inl ⟨field, item, declared, locked, shape⟩
  | true => exact .inr ⟨field, declared, dynamic, locked⟩

end Schema

namespace Record

variable {schema : Schema} {name : String} {names : List String} {field item : Field}

theorem resetList_editable (list : schema.HasDynamicList name field item) (model : Record) :
    resetList schema model [.field name] =
      .ok (Members.set model name (.list [item.templateEntry])) := by
  have routed : schema.route [.field name] = .ok [(.field name, field)] := by
    simp [Schema.route, Schema.editableField, list.declared, Field.editable, list.editable,
      Field.route, bind, Except.bind, pure, Except.pure]
  have listed : listRoute schema [.field name] = .ok ([(.field name, field)], field) :=
    listRoute_ok.mpr ⟨routed, rfl, item, true, list.shape⟩
  rw [resetList, listed]
  show model.update (fun _ => .ok (.list field.nextEntry?.toList)) [(.field name, field)] = _
  rw [list.nextEntry?]
  rfl

theorem resetList_locked (locks : schema.LocksDynamic name) (model : Record) :
    resetList schema model [.field name] = .error (.readOnlyField [.field name]) := by
  obtain ⟨field, declared, _, locked⟩ := locks
  simp [resetList, listRoute, Schema.route, Schema.editableField, declared, Field.editable, locked,
    Path.child, bind, Except.bind]

/-- Dynamic lists that can be edited become those of a new form, whatever the form held. -/
theorem resetLists_editable (distinct : schema.isDistinct = true)
    (each : ∀ name ∈ names, ∃ field item, schema.HasDynamicList name field item)
    (model : Record) :
    ∃ next, resetLists schema model (names.map fun name => [.field name]) = .ok next ∧
      (∀ name ∈ names, Members.get? next name = Members.get? schema.blankRecord name) ∧
      ∀ name, name ∉ names → Members.get? next name = Members.get? model name := by
  induction names generalizing model with
  | nil => exact ⟨model, rfl, fun _ never => (nomatch never), fun _ _ => rfl⟩
  | cons first rest ih =>
      obtain ⟨⟨field, item, list⟩, others⟩ := List.forall_mem_cons.mp each
      obtain ⟨next, done, reset, kept⟩ :=
        ih others (Members.set model first (.list [item.templateEntry]))
      refine ⟨next, ?_, ?_, ?_⟩
      · rw [List.map_cons, resetLists, List.foldlM_cons, resetList_editable list model]
        exact done
      · refine List.forall_mem_cons.mpr ⟨?_, reset⟩
        by_cases again : first ∈ rest
        · exact reset first again
        · rw [kept first again, Members.get?_set, if_pos rfl,
            (list.holdsEntries_blankRecord distinct).1]
      · intro name apart
        obtain ⟨different, beyond⟩ := List.ne_and_not_mem_of_not_mem_cons apart
        rw [kept name beyond, Members.get?_set, if_neg (Ne.symm different)]

/-- A dynamic list that cannot be edited stops the reset, whatever the form holds. -/
theorem resetLists_locked (each : ∀ name ∈ names, schema.DeclaresDynamic name)
    (locked : ∃ name ∈ names, schema.LocksDynamic name) (model : Record) :
    ∃ name, schema.LocksDynamic name ∧
      resetLists schema model (names.map fun name => [.field name]) =
        .error (.readOnlyField [.field name]) := by
  induction names generalizing model with
  | nil => exact absurd locked (by simp)
  | cons first rest ih =>
      obtain ⟨declares, others⟩ := List.forall_mem_cons.mp each
      rw [List.map_cons, resetLists, List.foldlM_cons]
      by_cases locks : schema.LocksDynamic first
      · refine ⟨first, locks, ?_⟩
        rw [resetList_locked locks]
        rfl
      · obtain ⟨field, item, list⟩ := declares.editable_or_locked.resolve_right locks
        rw [resetList_editable list]
        obtain ⟨name, member, stops⟩ := locked
        obtain rfl | later := List.mem_cons.mp member
        · exact absurd stops locks
        · exact ih others ⟨name, later, stops⟩ _

end Record

namespace Session

variable {session : Session}

theorem reopen_open (isOpen : session.closed = false) :
    session.reopen =
      match session.model.resetDynamic session.schema with
      | .ok model => ({ session with model }, { answer := .done, published := some model })
      | .error error => (session, { answer := .refused (.edit error) }) := by
  rw [reopen, edit, if_neg (by simp [isOpen])]
  cases session.model.resetDynamic session.schema <;> rfl

/-- An open session whose dynamic lists can all be edited is reopened, whatever its form holds:
every dynamic list of the form itself is then the one of a new form, and every other member is as it
was. Where a dynamic list is read-only, reopening is refused because of it and nothing changes. -/
theorem reopen_outcome (session : Session) (isOpen : session.closed = false)
    (distinct : session.schema.isDistinct = true) :
    ((∀ name, ¬ session.schema.LocksDynamic name) →
      ∃ model, session.reopen =
          ({ session with model }, { answer := .done, published := some model }) ∧
        (∀ name, session.schema.DeclaresDynamic name →
          Members.get? model name = Members.get? session.schema.blankRecord name) ∧
        ∀ name, ¬ session.schema.DeclaresDynamic name →
          Members.get? model name = Members.get? session.model name) ∧
    ((∃ name, session.schema.LocksDynamic name) →
      ∃ name, session.schema.LocksDynamic name ∧
        session.reopen =
          (session, { answer := .refused (.edit (.readOnlyField [.field name])) })) := by
  have declared := Schema.mem_dynamicNames distinct
  rw [reopen_open isOpen, Record.resetDynamic, Schema.dynamicLists_eq]
  constructor
  · intro free
    have each : ∀ name ∈ session.schema.dynamicNames,
        ∃ field item, session.schema.HasDynamicList name field item := fun name listed =>
      ((declared name).mp listed).editable_or_locked.resolve_right (free name)
    obtain ⟨model, done, reset, kept⟩ := Record.resetLists_editable distinct each session.model
    rw [done]
    refine ⟨model, rfl, fun name declares => reset name ((declared name).mpr declares),
      fun name other => kept name fun listed => other ((declared name).mp listed)⟩
  · rintro ⟨name, locks⟩
    have ⟨field, there, dynamic, _⟩ := locks
    obtain ⟨name, locks, failed⟩ := Record.resetLists_locked
      (fun name listed => (declared name).mp listed)
      ⟨name, (declared name).mpr ⟨field, there, dynamic⟩, locks⟩ session.model
    rw [failed]
    exact ⟨name, locks, rfl⟩

/-- A session for a new app that was given a name and a second port. -/
def appDraft : Session :=
  let named := (create .app "/apps").edit fun model =>
    (Record.setScalar .app model [.field "name"] "nginx").mapError .edit
  (named.1.edit fun model => (Record.append .app model [.field "ports"]).mapError .edit).1

/-- The app is reopened with the port of a new one, and keeps its name. -/
theorem appDraft_reopens :
    ∃ model, appDraft.reopen =
        ({ appDraft with model }, { answer := .done, published := some model }) ∧
      Members.get? appDraft.model "ports" ≠ Members.get? Schema.app.blankRecord "ports" ∧
      Members.get? model "ports" = Members.get? Schema.app.blankRecord "ports" ∧
      Members.get? model "name" = some (.text "nginx") := by
  have distinct : Schema.app.isDistinct = true := by decide
  have free (name : String) : ¬ Schema.app.LocksDynamic name := by
    rintro ⟨field, declared, dynamic, locked⟩
    have editable : ∀ pair ∈ Schema.app.fields, pair.2.isDynamicList = true →
        pair.2.readOnly = false := by decide
    rw [editable _ (Members.mem_of_get? declared) dynamic] at locked
    cases locked
  obtain ⟨model, reopened, reset, kept⟩ := (reopen_outcome appDraft rfl distinct).1 free
  refine ⟨model, reopened, ?_, reset "ports" ⟨_, rfl, rfl⟩, kept "name" ?_⟩
  · intro same
    cases same
  · rintro ⟨field, declared, dynamic⟩
    cases declared
    cases dynamic

/-- A service that writes a log, which nobody else does, and has ports. -/
def serviceSchema : Schema :=
  Schema.empty "Service"
    |>.withField "log" (Field.dynamicList "Log" (.string "Line")).asReadOnly
    |>.withField "ports" (.dynamicList "Ports" (.number "Port"))

/-- A session for a new service that was given a second port. -/
def serviceDraft : Session :=
  ((create serviceSchema "/services").edit fun model =>
    (Record.append serviceSchema model [.field "ports"]).mapError .edit).1

/-- The service is not reopened because of its log, and keeps both ports. -/
theorem serviceDraft_refused :
    serviceDraft.closed = false ∧
      serviceDraft.reopen.2.answer = .refused (.edit (.readOnlyField [.field "log"])) ∧
      Members.get? serviceDraft.reopen.1.model "ports" = some (.list [.int 0, .int 0]) ∧
      Members.get? serviceSchema.blankRecord "ports" = some (.list [.int 0]) :=
  ⟨rfl, rfl, rfl, rfl⟩

end Session

end ResourceEditor
