import ResourceEditor.Proofs.Validation.Exactness
/-
This file shows that a part of a form is validated as if it stood alone: what is reported at it and
below it is what is reported about it as a form, with its place put in front of every path.
-/

namespace ResourceEditor

/-- The violation as it reads from above, where the form that it is about lies at a place. -/
def Violation.under (place : Path) (violation : Violation) : Violation :=
  ⟨place ++ violation.path, violation.cause⟩

theorem Path.child_append (place path : Path) (name : String) :
    Path.child (place ++ path) name = place ++ path.child name := List.append_assoc ..

theorem Path.entry_append (place path : Path) (position : Nat) :
    Path.entry (place ++ path) position = place ++ path.entry position := List.append_assoc ..

open Violation

/-- What is reported about a field, for a value that a record holds and for a list entry, is the
same wherever it stands. -/
structure Field.ReportsAnywhere (field : Field) : Prop where
  held : ∀ place path value, field.shape.violations field.title (place ++ path) value =
    (field.shape.violations field.title path value).map (under place)
  entry : ∀ place path value, field.entryViolations (place ++ path) value =
    (field.entryViolations path value).map (under place)

/-- What is reported about a record is the same wherever it stands. -/
def Schema.ReportsAnywhere (schema : Schema) : Prop :=
  ∀ place path record, schema.violations (place ++ path) record =
    (schema.violations path record).map (under place)

section Anywhere

variable (place path : Path)

theorem Field.violations_append {field : Field} (anywhere : field.ReportsAnywhere)
    (required : Bool) (held : Option Value) :
    field.violations required (place ++ path) held =
      (field.violations required path held).map (under place) := by
  obtain ⟨title, readOnly, shape⟩ := field
  cases held with
  | none => cases readOnly <;> cases required <;> rfl
  | some value =>
      dsimp only [violations]
      -- whether anything is said of the value, and whether its shape says it, is no matter of place
      split
      · rfl
      · split
        · rfl
        · split
          · rfl
          · exact anywhere.held place path value

theorem Schema.orderViolations_append (schema : Schema) (record : Record) :
    schema.orderViolations (place ++ path) record =
      (schema.orderViolations path record).map (under place) := by
  rw [orderViolations, orderViolations, List.map_map]
  refine List.map_congr_left fun rule _ => ?_
  rw [OrderRule.violation, Path.child_append]
  rfl

theorem Schema.reportsAnywhere_of_fields {schema : Schema}
    (fields : ∀ pair ∈ schema.fields, pair.2.ReportsAnywhere) : schema.ReportsAnywhere := by
  intro place path record
  rw [violations_eq, violations_eq, List.map_append, orderViolations_append]
  congr 1
  rw [fieldViolations, fieldViolations, List.map_flatMap]
  refine List.flatMap_congr fun pair declared => ?_
  rw [Path.child_append]
  exact Field.violations_append place _ (fields pair declared) _ _

theorem ScalarRule.violations_append (rule : ScalarRule) (title : String) (value : Value) :
    rule.violations title (place ++ path) value =
      (rule.violations title path value).map (under place) := by
  rw [violations, violations, List.map_map]
  rfl

theorem Field.reportsAnywhere_scalar (title : String) (readOnly : Bool) (rule : ScalarRule) :
    Field.ReportsAnywhere ⟨title, readOnly, .scalar rule⟩ where
  held := fun place path value => rule.violations_append place path title value
  entry := by
    intro place path value
    rw [entryViolations_eq, entryViolations_eq, Shape.entryViolations, Shape.entryViolations]
    split
    · rfl
    · exact rule.violations_append place path title value

theorem Field.reportsAnywhere_composite (title : String) (readOnly : Bool) {below : Schema}
    (inside : below.ReportsAnywhere) :
    Field.ReportsAnywhere ⟨title, readOnly, .composite below⟩ where
  held := by
    intro place path value
    obtain other | ⟨members, rfl⟩ := value.record?_cases
    · rw [Shape.violations_notObject other, Shape.violations_notObject other]
      rfl
    · dsimp only [Shape.violations]
      split
      · rfl
      · exact inside place path members
  entry := by
    intro place path value
    rw [entryViolations_eq, entryViolations_eq]
    obtain other | ⟨members, rfl⟩ := value.record?_cases
    · rw [Shape.entryViolations_notObject other, Shape.entryViolations_notObject other]
      rfl
    · exact inside place path members

theorem Field.entriesViolations_append {item : Field} (inside : item.ReportsAnywhere)
    (entries : List Value) : item.entriesViolations (place ++ path) entries =
      (item.entriesViolations path entries).map (under place) := by
  rw [entriesViolations, entriesViolations, List.map_flatMap]
  refine List.flatMap_congr fun pair _ => ?_
  dsimp only
  rw [Path.entry_append]
  exact inside.entry place _ pair.1

theorem Field.reportsAnywhere_list (title : String) (readOnly : Bool) {item : Field}
    (dynamic : Bool) (inside : item.ReportsAnywhere) :
    Field.ReportsAnywhere ⟨title, readOnly, .list item dynamic⟩ where
  held := by
    intro place path value
    obtain other | ⟨entries, rfl⟩ := value.list?_cases
    · rw [Shape.violations_notList other, Shape.violations_notList other]
      rfl
    · exact entriesViolations_append place path inside entries
  entry := by
    intro place path value
    rw [entryViolations_eq, entryViolations_eq]
    obtain other | ⟨entries, rfl⟩ := value.list?_cases
    · rw [Shape.entryViolations_notList other, Shape.entryViolations_notList other]
      rfl
    · exact entriesViolations_append place path inside entries

end Anywhere

theorem reportsAnywhere : (∀ schema : Schema, schema.ReportsAnywhere) ∧
    ∀ field : Field, field.ReportsAnywhere :=
  Schema.descent Schema.ReportsAnywhere Field.ReportsAnywhere
    (fun _ => Schema.reportsAnywhere_of_fields) Field.reportsAnywhere_scalar
    (fun title readOnly _ => Field.reportsAnywhere_composite title readOnly)
    (fun title readOnly _ dynamic => Field.reportsAnywhere_list title readOnly dynamic)

/-- A record reports at a place what it does as a form. -/
theorem Schema.violations_at (schema : Schema) (place : Path) (record : Record) :
    schema.violations place record = (record.violations schema).map (under place) := by
  have moved := reportsAnywhere.1 schema place [] record
  rwa [List.append_nil] at moved

/-- The lists of a form whose entries are looked at, with the description of the entries: those
that records hold and those that stand in other lists. -/
inductive InspectedList (form : Schema) (model : Record) : Path → Field → List Value → Prop where
  | member {path : Path} {schema : Schema} {record : Record} {name : String} {field item : Field}
      {dynamic : Bool} {entries : List Value}
      (within : Inspected form model path (.record schema record))
      (declared : (name, field) ∈ schema.fields) (editable : field.readOnly = false)
      (shape : field.shape = .list item dynamic)
      (held : Members.get? record name = some (.list entries)) :
      InspectedList form model (path.child name) item entries
  | entry {path : Path} {outer item : Field} {dynamic : Bool} {entries : List Value}
      (within : Inspected form model path (.entry outer (.list entries)))
      (shape : outer.shape = .list item dynamic) : InspectedList form model path item entries

theorem InspectedList.inspected {form : Schema} {model : Record} {path : Path} {item : Field}
    {entries : List Value} (list : InspectedList form model path item entries) {position : Nat}
    {entry : Value} (there : entries[position]? = some entry) :
    Inspected form model (path.entry position) (.entry item entry) := by
  cases list with
  | member within declared editable shape held =>
      exact .listed within declared editable shape held there
  | entry within shape => exact .nested within shape there

namespace Record

/-- A record that is looked at is reported on as a form of its own. -/
theorem allBelow_record {form : Schema} {model : Record} (distinct : form.isDistinct = true)
    {path : Path} {schema : Schema} {record : Record}
    (inspected : Inspected form model path (.record schema record)) :
    allBelow (model.violations form) path = (record.violations schema).map (under path) :=
  (inspected.allBelow_eq distinct).trans (schema.violations_at path record)

/-- At a record in a list and below it, and at a member record in which something is filled in, a
form reports what the record does on its own, in that order, with its place put in front. -/
theorem violations_compositional (form : Schema) (model : Record)
    (distinct : form.isDistinct = true) :
    (∀ list item entries, InspectedList form model list item entries →
      ∀ schema, item.shape = .composite schema →
      ∀ (position : Nat) (record : Record), entries[position]? = some (.record record) →
        allBelow (model.violations form) (list.entry position) =
          (record.violations schema).map (under (list.entry position))) ∧
    ∀ path schema record, Inspected form model path (.record schema record) →
      ∀ name field below (members : Record), (name, field) ∈ schema.fields →
        field.readOnly = false → field.shape = .composite below →
        Members.get? record name = some (.record members) →
        (Value.record members).isEmpty = false →
        allBelow (model.violations form) (path.child name) =
          (members.violations below).map (under (path.child name)) := by
  constructor
  · intro list item entries inspected schema shape position record there
    exact allBelow_record distinct (.opened (inspected.inspected there) shape)
  · intro path schema record inspected name field below members declared editable shape held filled
    refine allBelow_record distinct (inspected.part declared editable shape held ?_)
    exact (Value.allEmpty_eq_false_iff members).mp filled

theorem ports_violations_compositional :
    Schema.trafficPolicy.isDistinct = true ∧
      allBelow (portsPolicy.violations .trafficPolicy) portsRulePath =
        (portsRule.violations .trafficRule).map (under portsRulePath) ∧
      allBelow (portsPolicy.violations .trafficPolicy) (portsRulePath.child "source") =
        (portsSource.violations (.trafficSelector "Source")).map
          (under (portsRulePath.child "source")) := by
  have distinct : Schema.trafficPolicy.isDistinct = true := by decide
  obtain ⟨ofEntries, ofMembers⟩ := violations_compositional .trafficPolicy portsPolicy distinct
  have declared :
      ("traffic_rules", .list "Traffic Rules" (.composite "Traffic Rule" .trafficRule)) ∈
        Schema.trafficPolicy.fields := List.mem_of_getElem? (i := 2) rfl
  have rules : InspectedList .trafficPolicy portsPolicy [.field "traffic_rules"]
      (.composite "Traffic Rule" .trafficRule) [.record portsRule] :=
    .member .form declared rfl rfl rfl
  refine ⟨distinct, ofEntries _ _ _ rules _ rfl 0 portsRule rfl, ?_⟩
  exact ofMembers portsRulePath _ _ portsRule_inspected "source" _ _ portsSource
    (List.mem_of_getElem? (i := 2) rfl) rfl rfl rfl rfl

end Record

end ResourceEditor
