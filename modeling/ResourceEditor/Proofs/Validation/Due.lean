import ResourceEditor.Proofs.Validation.Places
/-
This file shows that validation reports the violations that are due and no others.
-/

namespace ResourceEditor

/-- What is reported at a place and below it. -/
def Place.violations (path : Path) : Place → List Violation
  | .record schema members => schema.violations path members
  | .entry item value => item.entryViolations path value

theorem Schema.mem_violations_of_field {schema : Schema} {path : Path} {record : Record}
    {name : String} {field : Field} {violation : Violation}
    (declared : (name, field) ∈ schema.fields)
    (reported : violation ∈ field.violations (schema.required.contains name) (path.child name)
      (Members.get? record name)) : violation ∈ schema.violations path record := by
  rw [Schema.violations_eq]
  exact List.mem_append_left _ (Schema.mem_fieldViolations.mpr ⟨name, field, declared, reported⟩)

/-- There is nothing wrong with a member of a valid record. -/
theorem Schema.field_violations_eq_nil {schema : Schema} {path : Path} {record : Record}
    {name : String} {field : Field} (valid : schema.violations path record = [])
    (declared : (name, field) ∈ schema.fields) :
    field.violations (schema.required.contains name) (path.child name) (Members.get? record name) =
      [] := by
  rw [List.eq_nil_iff_forall_not_mem] at valid ⊢
  intro violation reported
  exact valid violation (Schema.mem_violations_of_field declared reported)

theorem Field.entryViolations_eq_nil {item : Field} {path : Path} {entries : List Value}
    (valid : item.entriesViolations path entries = []) {position : Nat} {entry : Value}
    (there : entries[position]? = some entry) :
    item.entryViolations (path.entry position) entry = [] := by
  rw [List.eq_nil_iff_forall_not_mem] at valid ⊢
  intro violation reported
  exact valid violation (mem_entriesViolations.mpr ⟨position, entry, there, reported⟩)

namespace Inspected

variable {form : Schema} {model : Record}

/-- What a place reports, the form reports. -/
theorem mem_violations {path : Path} {place : Place} (inspected : Inspected form model path place)
    {violation : Violation} (reported : violation ∈ place.violations path) :
    violation ∈ model.violations form := by
  induction inspected with
  | form => exact reported
  | part within declared editable shape held filled ih =>
      refine ih (Schema.mem_violations_of_field declared ?_)
      rw [held, Field.violations_filled editable (.inl (Value.isEmpty_record filled)), shape,
        Shape.violations_record filled]
      exact reported
  | listed within declared editable shape held there ih =>
      refine ih (Schema.mem_violations_of_field declared ?_)
      rw [held, Field.violations_filled editable (.inl (Value.isEmpty_list there)), shape]
      exact Field.mem_entriesViolations.mpr ⟨_, _, there, reported⟩
  | nested within shape there ih =>
      apply ih
      rw [Place.violations, Field.entryViolations_eq, shape]
      exact Field.mem_entriesViolations.mpr ⟨_, _, there, reported⟩
  | opened within shape ih =>
      apply ih
      rw [Place.violations, Field.entryViolations_eq, shape]
      exact reported

end Inspected

/-- A misfit is reported where its value is looked at. -/
theorem Misfit.mem_violations {field : Field} {value : Value} {cause : Cause}
    (misfit : Misfit field value cause) (path : Path) :
    ⟨path, cause⟩ ∈ field.shape.violations field.title path value := by
  cases shape : field.shape with
  | scalar rule =>
      exact ScalarRule.mem_violations.mpr ⟨rfl, ScalarRule.mem_causes_of_misfit shape misfit⟩
  | composite schema =>
      cases misfit with
      | notObject again other =>
          rw [Shape.violations_notObject other]
          exact List.mem_singleton_self _
      | _ again => rw [shape] at again; cases again
  | list item dynamic =>
      cases misfit with
      | notList again other =>
          rw [Shape.violations_notList other]
          exact List.mem_singleton_self _
      | _ again => rw [shape] at again; cases again

theorem Misfit.mem_entryViolations {item : Field} {value : Value} {cause : Cause}
    (misfit : Misfit item value cause)
    (filled : item.scalar?.isSome = true → value.isEmpty = false ∨ value.isNaN = true)
    (path : Path) : ⟨path, cause⟩ ∈ item.entryViolations path value := by
  rw [Field.entryViolations_eq]
  cases shape : item.shape with
  | scalar rule =>
      have unskipped : value.isUnfilled = false := by
        rw [Value.isUnfilled_iff]
        apply filled
        rw [Field.scalar?, shape]
        rfl
      rw [Shape.entryViolations, unskipped]
      exact ScalarRule.mem_violations.mpr ⟨rfl, ScalarRule.mem_causes_of_misfit shape misfit⟩
  | composite schema =>
      cases misfit with
      | notObject again other =>
          rw [Shape.entryViolations_notObject other]
          exact List.mem_singleton_self _
      | _ again => rw [shape] at again; cases again
  | list inner dynamic =>
      cases misfit with
      | notList again other =>
          rw [Shape.entryViolations_notList other]
          exact List.mem_singleton_self _
      | _ again => rw [shape] at again; cases again

theorem Due.mem_violations {form : Schema} {model : Record} {violation : Violation}
    (due : Due form model violation) : violation ∈ model.violations form := by
  cases due with
  | required within declared editable required blank =>
      refine within.mem_violations (Schema.mem_violations_of_field declared ?_)
      rw [List.contains_iff_mem.mpr required, Field.violations_required editable blank]
      exact List.mem_singleton_self _
  | held within declared editable held filled misfit =>
      refine within.mem_violations (Schema.mem_violations_of_field declared ?_)
      rw [held, Field.violations_filled editable]
      · exact misfit.mem_violations _
      · simpa using filled
  | entry within filled misfit =>
      exact within.mem_violations (misfit.mem_entryViolations filled _)
  | order within asked broken =>
      apply within.mem_violations
      rw [Place.violations, Schema.violations_eq]
      exact List.mem_append_right _ (Schema.mem_orderViolations.mpr ⟨_, asked, broken, rfl⟩)

/-- What is reported below an inspected record is due. -/
def Schema.ReportsDue (schema form : Schema) (model : Record) : Prop :=
  ∀ path record, Inspected form model path (.record schema record) →
    ∀ violation ∈ schema.violations path record, Due form model violation

/-- What is reported about a field is due, where an inspected record holds a value for it and where
a list has an entry for it. -/
structure Field.ReportsDue (field : Field) (form : Schema) (model : Record) : Prop where
  held : ∀ path schema record name value, Inspected form model path (.record schema record) →
    (name, field) ∈ schema.fields → field.readOnly = false →
    Members.get? record name = some value →
    (value.isEmpty = false ∨ (value.isNaN = true ∧ name ∉ schema.required)) →
    ∀ violation ∈ field.shape.violations field.title (path.child name) value,
      Due form model violation
  entry : ∀ path value, Inspected form model path (.entry field value) →
    ∀ violation ∈ field.entryViolations path value, Due form model violation

section Reports

variable {form : Schema} {model : Record}

theorem Schema.reportsDue_of_fields {schema : Schema}
    (fields : ∀ pair ∈ schema.fields, pair.2.ReportsDue form model) :
    schema.ReportsDue form model := by
  intro path record inspected violation reported
  rw [Schema.violations_eq] at reported
  obtain reported | reported := List.mem_append.mp reported
  · obtain ⟨name, field, declared, reported⟩ := Schema.mem_fieldViolations.mp reported
    obtain ⟨editable, reported⟩ := Field.mem_violations reported
    obtain ⟨required, blank, rfl⟩ | ⟨value, held, filled, reported⟩ := reported
    · exact .required inspected declared editable (List.contains_iff_mem.mp required) blank
    · refine (fields _ declared).held path schema record name value inspected declared editable
        held ?_ violation reported
      simpa using filled
  · obtain ⟨rule, asked, broken, rfl⟩ := Schema.mem_orderViolations.mp reported
    exact .order inspected asked broken

theorem Field.reportsDue_scalar (title : String) (readOnly : Bool) (rule : ScalarRule) :
    Field.ReportsDue ⟨title, readOnly, .scalar rule⟩ form model where
  held := by
    intro path schema record name value inspected declared editable held filled violation reported
    obtain ⟨place, cause⟩ := violation
    obtain ⟨rfl, found⟩ := ScalarRule.mem_violations.mp reported
    exact .held inspected declared editable held filled
      (ScalarRule.misfit_of_mem_causes rfl found)
  entry := by
    intro path value inspected violation reported
    obtain ⟨place, cause⟩ := violation
    rw [Field.entryViolations_eq, Shape.entryViolations] at reported
    by_cases skipped : value.isUnfilled = true
    · rw [if_pos skipped] at reported
      cases reported
    · rw [if_neg skipped] at reported
      obtain ⟨rfl, found⟩ := ScalarRule.mem_violations.mp reported
      have filled := value.isUnfilled_iff.mp (eq_false_of_ne_true skipped)
      exact .entry inspected (fun _ => filled) (ScalarRule.misfit_of_mem_causes rfl found)

theorem Field.reportsDue_composite (title : String) (readOnly : Bool) {below : Schema}
    (inside : below.ReportsDue form model) :
    Field.ReportsDue ⟨title, readOnly, .composite below⟩ form model where
  held := by
    intro path schema record name value inspected declared editable held filled violation reported
    obtain other | ⟨members, rfl⟩ := value.record?_cases
    · rw [Shape.violations_notObject other, List.mem_singleton] at reported
      subst reported
      exact .held inspected declared editable held filled (.notObject rfl other)
    · have something : ∃ member ∈ members, member.2.isEmpty = false := by
        rw [← Value.allEmpty_eq_false_iff]
        obtain full | ⟨malformed, _⟩ := filled
        · exact full
        · cases malformed
      rw [Shape.violations_record something] at reported
      exact inside _ members (.part inspected declared editable rfl held something) _ reported
  entry := by
    intro path value inspected violation reported
    rw [Field.entryViolations_eq] at reported
    obtain other | ⟨members, rfl⟩ := value.record?_cases
    · rw [Shape.entryViolations_notObject other, List.mem_singleton] at reported
      subst reported
      exact .entry inspected (fun scalar => by cases scalar) (.notObject rfl other)
    · exact inside path members (.opened inspected rfl) violation reported

theorem Field.reportsDue_list (title : String) (readOnly : Bool) {item : Field} (dynamic : Bool)
    (inside : item.ReportsDue form model) :
    Field.ReportsDue ⟨title, readOnly, .list item dynamic⟩ form model where
  held := by
    intro path schema record name value inspected declared editable held filled violation reported
    obtain other | ⟨entries, rfl⟩ := value.list?_cases
    · rw [Shape.violations_notList other, List.mem_singleton] at reported
      subst reported
      exact .held inspected declared editable held filled (.notList rfl other)
    · obtain ⟨position, entry, there, reported⟩ := Field.mem_entriesViolations.mp reported
      exact inside.entry _ entry (.listed inspected declared editable rfl held there) violation
        reported
  entry := by
    intro path value inspected violation reported
    rw [Field.entryViolations_eq] at reported
    obtain other | ⟨entries, rfl⟩ := value.list?_cases
    · rw [Shape.entryViolations_notList other, List.mem_singleton] at reported
      subst reported
      exact .entry inspected (fun scalar => by cases scalar) (.notList rfl other)
    · obtain ⟨position, entry, there, reported⟩ := Field.mem_entriesViolations.mp reported
      exact inside.entry _ entry (.nested inspected rfl there) violation reported

theorem Schema.reportsDue (form : Schema) (model : Record) (schema : Schema) :
    schema.ReportsDue form model :=
  (Schema.descent (·.ReportsDue form model) (·.ReportsDue form model)
    (fun _ => Schema.reportsDue_of_fields) Field.reportsDue_scalar
    (fun title readOnly _ => Field.reportsDue_composite title readOnly)
    (fun title readOnly _ dynamic => Field.reportsDue_list title readOnly dynamic)).1 schema

end Reports

/-- Validation reports what is due. -/
theorem Record.mem_violations_iff {form : Schema} {model : Record} {violation : Violation} :
    violation ∈ model.violations form ↔ Due form model violation :=
  ⟨Schema.reportsDue form model form [] model .form violation, Due.mem_violations⟩

end ResourceEditor
