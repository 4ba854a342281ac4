import ResourceEditor.Proofs.Typing.Editing
import ResourceEditor.Proofs.Validation.Locality
import ResourceEditor.Schema.Catalog
/-
This file shows what the edits of a form can rely on: every form that they lead to has the shape of
its schema, so validation finds no value of a wrong type, and no edit fails for what the form holds
other than a position that is not there.
-/

namespace ResourceEditor

variable {asked : Schema → Record → Prop} {form : Schema} {model : Record}

/-- What stands at a place has the shape that is declared for it. -/
def Place.Conforms (asked : Schema → Record → Prop) : Place → Prop
  | .record schema members => (Value.record members).Conforms asked schema.whole
  | .entry item value => value.Conforms asked item

namespace Inspected

/-- What an inspected record holds for a field has the shape of the field. -/
theorem conforms_held {schema : Schema} {record : Record} {name : String} {field : Field}
    {value : Value} (conforms : (Value.record record).Conforms asked schema.whole)
    (distinct : schema.isDistinct = true) (declared : (name, field) ∈ schema.fields)
    (held : Members.get? record name = some value) : value.Conforms asked field := by
  obtain ⟨_, same, _, each⟩ := conforms.of_composite rfl
  cases same
  exact each name field value
    (Members.get?_of_mem (schema.isDistinct_iff.mp distinct).1 declared) held

theorem conforms {path : Path} {place : Place} (inspected : Inspected form model path place)
    (distinct : form.isDistinct = true)
    (typed : (Value.record model).Conforms asked form.whole) : place.Conforms asked := by
  induction inspected with
  | form => exact typed
  | part within declared editable shape held filled ih =>
      exact (conforms_held ih (within.isDistinct distinct) declared held).whole shape
  | listed within declared editable shape held there ih =>
      have list := conforms_held ih (within.isDistinct distinct) declared held
      obtain ⟨_, same, each⟩ := list.of_list shape
      cases same
      exact each _ (List.mem_of_getElem? there)
  | nested within shape there ih =>
      obtain ⟨_, same, each⟩ := Value.Conforms.of_list ih shape
      cases same
      exact each _ (List.mem_of_getElem? there)
  | opened within shape ih => exact Value.Conforms.whole ih shape

end Inspected

/-- A value of the right shape has no wrong type. -/
theorem Misfit.kindName_ne {field : Field} {value : Value} {cause : Cause}
    (misfit : Misfit field value cause) (conforms : value.Conforms asked field) :
    cause.kindName ≠ "wrong_type" := by
  cases misfit with
  | notSingle shape nested =>
      rw [conforms.isScalar shape] at nested
      cases nested
  | notObject shape other =>
      obtain ⟨members, rfl, _⟩ := conforms.of_composite shape
      cases other
  | notList shape other =>
      obtain ⟨entries, rfl, _⟩ := conforms.of_list shape
      cases other
  | _ => simp [Cause.kindName]

/-- Validation finds no value of a wrong type in a form of the right shape. -/
theorem Record.IsTyped.kindName_ne (typed : model.IsTyped form) (distinct : form.isDistinct = true)
    {violation : Violation} (reported : violation ∈ model.violations form) :
    violation.cause.kindName ≠ "wrong_type" := by
  cases Record.mem_violations_iff.mp reported with
  | required => simp [Cause.kindName]
  | order => simp [OrderRule.violation, Cause.kindName]
  | held within declared editable held filled misfit =>
      exact misfit.kindName_ne (Inspected.conforms_held (within.conforms distinct typed)
        (within.isDistinct distinct) declared held)
  | entry within filled misfit => exact misfit.kindName_ne (within.conforms distinct typed)

/-- Whether an edit failed because an entry has another shape than those of the list. -/
def EditError.isEntryMismatch : EditError → Bool
  | .typeMismatch _ (.entryLike _) => true
  | _ => false

section Entries

variable {error : EditError} {path : Path}

theorem Field.editable_error {field : Field} (failed : field.editable path = .error error) :
    error.isEntryMismatch = false := by
  rw [editable] at failed
  split at failed
  · cases failed
    rfl
  · cases failed

theorem Schema.editableField_error {schema : Schema} {name : String}
    (failed : schema.editableField path name = .error error) : error.isEntryMismatch = false := by
  rw [editableField] at failed
  cases declared : schema.field? name with
  | none =>
      rw [declared] at failed
      cases failed
      rfl
  | some field =>
      rw [declared] at failed
      exact Field.editable_error failed

theorem Field.descend_error {field : Field} {segment : Segment}
    (failed : field.descend path segment = .error error) : error.isEntryMismatch = false := by
  cases segment with
  | field name =>
      rw [descend] at failed
      cases shape : field.shape with
      | composite schema =>
          rw [shape] at failed
          exact Schema.editableField_error failed
      | _ =>
          rw [shape] at failed
          cases failed
          rfl
  | index position =>
      rw [descend] at failed
      cases shape : field.shape with
      | list item dynamic =>
          rw [shape] at failed
          exact editable_error failed
      | _ =>
          rw [shape] at failed
          cases failed
          rfl

theorem Field.route_error {field : Field} {rest : Path}
    (failed : field.route path rest = .error error) : error.isEntryMismatch = false := by
  induction rest generalizing field path with
  | nil => cases failed
  | cons segment others ih =>
      rw [route] at failed
      obtain stopped | ⟨next, _, continued⟩ := bind_eq_error_iff.mp failed
      · exact descend_error stopped
      · obtain later | ⟨below, _, never⟩ := bind_eq_error_iff.mp continued
        · exact ih later
        · cases never

theorem Schema.route_error {schema : Schema} (failed : schema.route path = .error error) :
    error.isEntryMismatch = false := by
  match path, failed with
  | [], failed => cases failed; rfl
  | .index _ :: _, failed => cases failed; rfl
  | .field name :: rest, failed =>
      rw [route] at failed
      obtain stopped | ⟨field, _, continued⟩ := bind_eq_error_iff.mp failed
      · exact editableField_error stopped
      · obtain later | ⟨below, _, never⟩ := bind_eq_error_iff.mp continued
        · exact Field.route_error later
        · cases never

theorem Record.listRoute_error {schema : Schema} (failed : listRoute schema path = .error error) :
    error.isEntryMismatch = false := by
  rw [listRoute] at failed
  obtain stopped | ⟨route, _, unlisted⟩ := bind_eq_error_iff.mp failed
  · exact Schema.route_error stopped
  · cases last : route.leaf? with
    | none =>
        rw [last] at unlisted
        cases unlisted
        rfl
    | some field =>
        cases item : field.item? with
        | none =>
            simp only [last, item, Except.error.injEq] at unlisted
            subst unlisted
            rfl
        | some inner => simp [last, item, pure, Except.pure] at unlisted

end Entries

/-- Nothing more is asked of a record than its shape. -/
theorem upheld_true : Upheld fun _ _ => True where
  fresh := fun _ _ _ => trivial
  set := fun _ _ _ _ _ _ _ _ => trivial

namespace Record

/-- Every form that edits of a new form lead to has the shape of its schema. -/
theorem ofEdits_sound (schema : Schema) (distinct : schema.isDistinct = true) (edits : List Edit)
    (fits : ∀ edit ∈ edits, ∀ part ∈ edit.parts, part.Fits (fun _ _ => True) schema) :
    (ofEdits schema edits).IsTyped schema ∧
      (∀ violation ∈ (ofEdits schema edits).violations schema,
        violation.cause.kindName ≠ "wrong_type") ∧
      (∀ list error, append schema (ofEdits schema edits) list = .error error →
        error.isEntryMismatch = false ∧
          ((∃ place index length, error = .indexOutOfRange place index length) ∨
            listRoute schema list = .error error)) ∧
      ∀ (edit : Edit) error, edit.apply schema (ofEdits schema edits) = .error error →
        (∃ place index length, error = .indexOutOfRange place index length) ∨
          ∃ part ∈ edit.parts, ∀ other, part.apply schema other = .error error := by
  have typed : (ofEdits schema edits).IsTyped schema :=
    conforms_afterEdits upheld_true distinct fits (conforms_blankRecord upheld_true distinct)
  refine ⟨typed, fun violation => typed.kindName_ne distinct, ?_, ?_⟩
  · intro list error failed
    have either := append_error upheld_true distinct typed failed
    refine ⟨?_, either⟩
    obtain ⟨place, index, length, rfl⟩ | unlisted := either
    · rfl
    · exact listRoute_error unlisted
  · intro edit error failed
    exact Edit.apply_error upheld_true distinct typed failed

/-- A new policy gets a name, a rule that is brought along, and then another priority for it. -/
def rulesEdits : List Edit :=
  [.set [.field "name"] "p", .appendWith [.field "traffic_rules"] (.record [("priority", .int 7)]),
    .setEntry [.field "traffic_rules"] 0 "priority" "1"]

theorem rulesEdits_fit :
    ∀ edit ∈ rulesEdits, ∀ part ∈ edit.parts, part.Fits (fun _ _ => True) .trafficPolicy := by
  intro edit inRun part inEdit
  simp only [rulesEdits, List.mem_cons, List.not_mem_nil, or_false] at inRun
  obtain rfl | rfl | rfl := inRun
  · exact Part.fits_of_bringsEntry rfl inEdit
  · cases List.mem_singleton.mp inEdit
    intro route field item dynamic listed shape
    cases listed
    cases shape
    refine .record rfl trivial ?_
    intro name inner value declared held
    rw [Members.get?_cons] at held
    split at held
    next same =>
      cases same
      cases held
      cases declared
      exact .number rfl rfl (.int 7)
    next => cases held
  · exact Part.fits_of_bringsEntry rfl inEdit

theorem rulesEdits_sound :
    Schema.trafficPolicy.isDistinct = true ∧
      (∀ edit ∈ rulesEdits, ∀ part ∈ edit.parts, part.Fits (fun _ _ => True) .trafficPolicy) ∧
      (ofEdits .trafficPolicy rulesEdits).at? [.field "traffic_rules", .index 0] =
        some (.record [("priority", .int 1)]) ∧
      (ofEdits .trafficPolicy rulesEdits).IsTyped .trafficPolicy ∧
      ∀ violation ∈ (ofEdits .trafficPolicy rulesEdits).violations .trafficPolicy,
        violation.cause.kindName ≠ "wrong_type" := by
  have distinct : Schema.trafficPolicy.isDistinct = true := by decide
  have sound := ofEdits_sound .trafficPolicy distinct rulesEdits rulesEdits_fit
  exact ⟨distinct, rulesEdits_fit, rfl, sound.1, sound.2.1⟩

end Record

end ResourceEditor
