import ResourceEditor.Proofs.Edit.Seeding
import ResourceEditor.Proofs.Validation.Malformed
import ResourceEditor.Proofs.Wire.Agreement
/-
This file compares a valid document with the form that it is opened as. There is nothing wrong with
the form either, but for the blank texts that stand for numbers: they are malformed ones there.
-/

namespace ResourceEditor

/-- A blank text that stands for a number and is looked at, with what is said of it once it is
read. -/
inductive BlankNumber (form : Schema) (model : Record) : Violation → Prop where
  | mk {path : Path} {field : Field} {rule : ScalarRule}
      (visible : Visible form model path field (.text "")) (shape : field.shape = .scalar rule)
      (kind : rule.kind = .number) : BlankNumber form model ⟨path, .notANumber field.title⟩

/-- A valid form of a schema that is steady. -/
structure Record.IsSteady (form : Schema) (model : Record) : Prop where
  distinct : form.isDistinct = true
  steady : form.isSteady = true
  maps : model.isDistinct = true
  valid : model.violations form = []

namespace Place

def isSteady : Place → Bool
  | .record schema _ => schema.isSteady
  | .entry item _ => item.everyFieldBelow Field.isSteady

def normalize : Place → Place
  | .record schema members => .record schema (schema.normalize members)
  | .entry item value => .entry item (item.normalize value)

end Place

namespace Inspected

variable {form : Schema} {model : Record} {path : Path} {place : Place}

theorem isSteady (steady : form.isSteady = true) (inspected : Inspected form model path place) :
    place.isSteady = true := by
  induction inspected with
  | form => exact steady
  | part within declared editable shape held filled ih =>
      have inner := (Schema.isSteady_field ih declared).2
      rw [Field.everyFieldBelow_eq, shape] at inner
      exact inner
  | listed within declared editable shape held there ih =>
      have inner := (Schema.isSteady_field ih declared).2
      rw [Field.everyFieldBelow_eq, shape] at inner
      exact inner
  | nested within shape there ih =>
      rw [Place.isSteady, Field.everyFieldBelow_eq, shape] at ih
      exact ih
  | opened within shape ih =>
      rw [Place.isSteady, Field.everyFieldBelow_eq, shape] at ih
      exact ih

theorem silent (steady : model.IsSteady form) (inspected : Inspected form model path place) :
    place.violations path = [] := by
  rw [List.eq_nil_iff_forall_not_mem]
  intro violation reported
  have found := inspected.mem_violations reported
  rw [steady.valid] at found
  cases found

/-- What is looked at in a valid form is looked at once the form is normalized. -/
theorem normalize (steady : model.IsSteady form) (inspected : Inspected form model path place) :
    Inspected form (form.normalize model) path place.normalize := by
  induction inspected with
  | form => exact .form
  | @part path schema below record members name field within declared editable shape held filled
      ih =>
      have inside := within.part declared editable shape held filled
      have still := keepsFilled.1 below (inside.isDistinct steady.distinct)
        (inside.isSteady steady.steady) _ members
        (Value.isDistinct_at? steady.maps inside.at?_eq) (inside.silent steady)
        (Value.isEmpty_record filled)
      have there := Schema.get?_normalize_of_get? (within.isDistinct steady.distinct) declared held
        (by simp)
      rw [Field.normalize_record shape] at there
      exact ih.part declared editable shape there ((Value.allEmpty_eq_false_iff _).mp still)
  | @listed path schema record name field item dynamic entries position entry within declared
      editable shape held there ih =>
      have holds := Schema.get?_normalize_of_get? (within.isDistinct steady.distinct) declared held
        (Value.ne_empty_list (Value.isEmpty_list there))
      rw [Field.normalize_list shape] at holds
      exact ih.listed declared editable shape holds (by rw [List.getElem?_map, there]; rfl)
  | nested within shape there ih =>
      rw [Place.normalize, Field.normalize_list shape] at ih
      exact ih.nested shape (by rw [List.getElem?_map, there]; rfl)
  | opened within shape ih =>
      rw [Place.normalize, Field.normalize_record shape] at ih
      exact ih.opened shape

end Inspected

theorem Visible.normalize {form : Schema} {model : Record} {path : Path} {field : Field}
    {value : Value} (steady : model.IsSteady form) (visible : Visible form model path field value)
    (other : value ≠ .list []) :
    Visible form (form.normalize model) path field (field.normalize value) := by
  cases visible with
  | whole => exact .whole
  | member within declared editable held =>
      exact .member (within.normalize steady) declared editable
        (Schema.get?_normalize_of_get? (within.isDistinct steady.distinct) declared held other)
  | entry inspected => exact .entry (inspected.normalize steady)

section Scalar

variable {title : String} {path : Path} {field : Field} {rule : ScalarRule}

/-- A rule says the same of a scalar once it is normalized. -/
theorem ScalarRule.violations_normalize (shape : field.shape = .scalar rule) (value : Value) :
    rule.violations title path (field.normalize value) = rule.violations title path value := by
  obtain same | ⟨kind, raw, rfl, read⟩ := field.normalize_scalar shape value
  · rw [same]
  · rw [read, violations, violations, causes_number title rfl kind, causes_number title rfl kind]
    rfl

theorem ScalarRule.violations_blank (kind : rule.kind = .number) :
    rule.violations title path (.text "") = [⟨path, .notANumber title⟩] := by
  rw [violations, causes_number title rfl kind, numberCauses, Value.integer?_of_isEmpty rfl]
  rfl

end Scalar

section Reports

variable {form : Schema} {model : Record}

/-- What a record that is looked at reports once it is normalized is about blank numbers. -/
def Schema.ReportsBlanks (schema form : Schema) (model : Record) : Prop :=
  ∀ path record, Inspected form model path (.record schema record) →
    ∀ violation ∈ schema.violations path (schema.normalize record), BlankNumber form model violation

/-- What a value that is looked at for a field reports once it is normalized is about blank numbers,
where a record holds it and it is filled in, and where it is a list entry. -/
structure Field.ReportsBlanks (field : Field) (form : Schema) (model : Record) : Prop where
  held : ∀ path value, Visible form model path field value → value.isEmpty = false →
    field.shape.violations field.title path value = [] →
    ∀ violation ∈ field.shape.violations field.title path (field.normalize value),
      BlankNumber form model violation
  entry : ∀ path value, Inspected form model path (.entry field value) →
    ∀ violation ∈ field.entryViolations path (field.normalize value),
      BlankNumber form model violation

/-- Of a blank member only a blank text that stands for a number is reported. -/
theorem Field.blankNumber_of_blank {path : Path} {schema : Schema} {record : Record} {name : String}
    {field : Field} {value : Value} (steady : model.IsSteady form)
    (within : Inspected form model path (.record schema record))
    (declared : (name, field) ∈ schema.fields) (held : Members.get? record name = some value)
    (blank : value.isEmpty = true) {violation : Violation}
    (reported : violation ∈ field.violations (schema.required.contains name) (path.child name)
      (some (field.normalize value))) : BlankNumber form model violation := by
  have valid := Schema.field_violations_eq_nil (within.silent steady) declared
  rw [held] at valid
  obtain ⟨own, below⟩ := Schema.isSteady_field (within.isSteady steady.steady) declared
  have still := keepsBlank.2 field own below value blank
  obtain ⟨editable, ⟨asked, _⟩ | ⟨_, ⟨⟩, full | ⟨mark, _⟩, said⟩⟩ := Field.mem_violations reported
  · rw [asked, Field.violations_required editable] at valid
    · cases valid
    · rintro _ ⟨⟩
      exact blank
  · rw [still] at full
    cases full
  · obtain same | ⟨rfl, rule, shape, kind⟩ := field.eq_or_blank_of_isNaN blank mark
    · rw [same, valid] at reported
      cases reported
    · rw [shape, Shape.violations, ScalarRule.violations_normalize shape,
        ScalarRule.violations_blank kind, List.mem_singleton] at said
      subst said
      exact .mk (.member within declared editable held) shape kind

/-- A member that is filled in stays so, and reports what its shape does. -/
theorem Field.blankNumber_of_filled {path : Path} {schema : Schema} {record : Record}
    {name : String} {field : Field} {value : Value} (steady : model.IsSteady form)
    (reports : field.ReportsBlanks form model)
    (within : Inspected form model path (.record schema record))
    (declared : (name, field) ∈ schema.fields) (held : Members.get? record name = some value)
    (filled : value.isEmpty = false) {violation : Violation}
    (reported : violation ∈ field.violations (schema.required.contains name) (path.child name)
      (some (field.normalize value))) : BlankNumber form model violation := by
  have valid := Schema.field_violations_eq_nil (within.silent steady) declared
  rw [held] at valid
  have distinct := ((Schema.isDistinct_iff _).mp (within.isDistinct steady.distinct)).2 _ declared
  obtain ⟨own, below⟩ := Schema.isSteady_field (within.isSteady steady.steady) declared
  have maps := (Value.isDistinct_record record).mp (Value.isDistinct_at? steady.maps within.at?_eq)
  have still := keepsFilled.2 field distinct own below _ _ value
    (maps.2 _ (Members.mem_of_get? held)) valid filled
  obtain ⟨editable, ⟨_, gone, _⟩ | ⟨_, ⟨⟩, _, reported⟩⟩ := Field.mem_violations reported
  · rw [gone _ rfl] at still
    cases still
  · rw [Field.violations_filled editable (.inl filled)] at valid
    exact reports.held _ value (.member within declared editable held) filled valid violation
      reported

theorem Schema.reportsBlanks_of_fields (steady : model.IsSteady form) {schema : Schema}
    (fields : ∀ pair ∈ schema.fields, pair.2.ReportsBlanks form model) :
    schema.ReportsBlanks form model := by
  intro path record within violation reported
  have distinct : schema.isDistinct = true := within.isDistinct steady.distinct
  have silent : schema.violations path record = [] := within.silent steady
  rw [violations_eq, orderViolations_normalize distinct] at reported
  obtain reported | reported := List.mem_append.mp reported
  · obtain ⟨name, field, declared, reported⟩ := mem_fieldViolations.mp reported
    obtain same | ⟨_, item, shape, seeded⟩ := get?_normalize_cases distinct declared record
    · rw [same] at reported
      cases held : Members.get? record name with
      | none =>
          have valid := field_violations_eq_nil silent declared
          rw [held] at reported valid
          rw [Option.map_none, valid] at reported
          cases reported
      | some value =>
          rw [held] at reported
          cases blank : value.isEmpty with
          | true => exact Field.blankNumber_of_blank steady within declared held blank reported
          | false =>
              exact Field.blankNumber_of_filled steady (fields _ declared) within declared held
                blank reported
    · have own := (Schema.isSteady_field (within.isSteady steady.steady) declared).1
      rw [seeded, Field.violations_seed own shape] at reported
      cases reported
  · rw [violations_eq, List.append_eq_nil_iff] at silent
    rw [silent.2] at reported
    cases reported

theorem Field.reportsBlanks_scalar (steady : model.IsSteady form) (title : String)
    (readOnly : Bool) (rule : ScalarRule) :
    Field.ReportsBlanks ⟨title, readOnly, .scalar rule⟩ form model where
  held := by
    intro path value visible filled valid violation reported
    rw [Shape.violations] at valid reported
    rw [ScalarRule.violations_normalize rfl, valid] at reported
    cases reported
  entry := by
    intro path value inspected violation reported
    have valid := inspected.silent steady
    rw [Place.violations] at valid
    obtain same | ⟨kind, raw, rfl, read⟩ := Field.normalize_scalar ⟨title, readOnly, _⟩ rfl value
    · rw [same, valid] at reported
      cases reported
    · have said : violation ∈ rule.violations title path (.text raw) := by
        rw [entryViolations_eq, Shape.entryViolations] at reported
        split at reported
        · cases reported
        · rwa [ScalarRule.violations_normalize rfl] at reported
      rw [entryViolations_eq, Shape.entryViolations] at valid
      -- only of a blank text nothing was said before
      split at valid
      next blank =>
        have none : raw = "" := by simpa [Value.isUnfilled, Value.isEmpty, Value.isNaN] using blank
        subst none
        rw [ScalarRule.violations_blank kind, List.mem_singleton] at said
        subst said
        exact .mk (.entry inspected) rfl kind
      next =>
        rw [valid] at said
        cases said

theorem Field.reportsBlanks_composite (steady : model.IsSteady form) (title : String)
    (readOnly : Bool) {below : Schema} (inside : below.ReportsBlanks form model) :
    Field.ReportsBlanks ⟨title, readOnly, .composite below⟩ form model where
  held := by
    intro path value visible filled valid violation reported
    obtain other | ⟨members, rfl⟩ := value.record?_cases
    · rw [normalize_of_record? rfl other, valid] at reported
      cases reported
    · rw [normalize_record rfl] at reported
      dsimp only [Shape.violations] at reported
      split at reported
      · cases reported
      · exact inside path members (visible.inspected rfl (.inr filled)) violation reported
  entry := by
    intro path value inspected violation reported
    obtain other | ⟨members, rfl⟩ := value.record?_cases
    · have valid := inspected.silent steady
      rw [Place.violations] at valid
      rw [normalize_of_record? rfl other, valid] at reported
      cases reported
    · exact inside path members (inspected.opened rfl) violation reported

theorem Field.entries_reportBlanks {item : Field} (inside : item.ReportsBlanks form model)
    {path : Path} {entries : List Value}
    (within : ∀ (position : Nat) (entry : Value), entries[position]? = some entry →
      Inspected form model (path.entry position) (.entry item entry)) :
    ∀ violation ∈ item.entriesViolations path (entries.map item.normalize),
      BlankNumber form model violation := by
  intro violation reported
  obtain ⟨position, other, there, reported⟩ := mem_entriesViolations.mp reported
  rw [List.getElem?_map, Option.map_eq_some_iff] at there
  obtain ⟨entry, there, rfl⟩ := there
  exact inside.entry _ entry (within position entry there) violation reported

theorem Field.reportsBlanks_list (steady : model.IsSteady form) (title : String)
    (readOnly : Bool) {item : Field} (dynamic : Bool) (inside : item.ReportsBlanks form model) :
    Field.ReportsBlanks ⟨title, readOnly, .list item dynamic⟩ form model where
  held := by
    intro path value visible filled valid violation reported
    obtain other | ⟨entries, rfl⟩ := value.list?_cases
    · rw [normalize_of_list? rfl other, valid] at reported
      cases reported
    · rw [normalize_list rfl] at reported
      refine entries_reportBlanks inside (fun position entry there => ?_) violation reported
      cases visible with
      | member within declared editable held =>
          exact .listed within declared editable rfl held there
      | entry inspected => exact .nested inspected rfl there
  entry := by
    intro path value inspected violation reported
    obtain other | ⟨entries, rfl⟩ := value.list?_cases
    · have valid := inspected.silent steady
      rw [Place.violations] at valid
      rw [normalize_of_list? rfl other, valid] at reported
      cases reported
    · exact entries_reportBlanks inside (fun position entry there => .nested inspected rfl there)
        violation reported

theorem Schema.reportsBlanks (steady : model.IsSteady form) (schema : Schema) :
    schema.ReportsBlanks form model :=
  (Schema.descent (·.ReportsBlanks form model) (·.ReportsBlanks form model)
    (fun _ => Schema.reportsBlanks_of_fields steady) (Field.reportsBlanks_scalar steady)
    (fun title readOnly _ => Field.reportsBlanks_composite steady title readOnly)
    (fun title readOnly _ dynamic => Field.reportsBlanks_list steady title readOnly dynamic)).1
    schema

/-- Normalizing a valid form brings up its blank numbers and nothing else. -/
theorem Record.mem_violations_normalize_iff (steady : model.IsSteady form) (violation : Violation) :
    violation ∈ (form.normalize model).violations form ↔ BlankNumber form model violation := by
  have sound := Schema.reportsBlanks steady form [] model .form
  refine ⟨sound violation, ?_⟩
  rintro @⟨path, field, rule, visible, shape, kind⟩
  have read : field.normalize (.text "") = .notANumber := by
    obtain ⟨title, readOnly, _⟩ := field
    cases shape
    rw [Field.normalize, Shape.normalize]
    · rfl
    · exact kind
  have there := visible.normalize steady (by simp)
  rw [read] at there
  obtain required | malformed := there.reported shape kind
  · -- a number that is required and blank is reported in the document already
    cases sound _ required
  · exact malformed

end Reports

namespace Record

/-- A valid document of a resource opens as a form in which nothing is wrong but the blank texts
that the document has for numbers. -/
theorem violations_ofResource (resource : Resource) (document : Json)
    (maps : document.isDistinct = true) (model : Record) (read : ofJson document = .ok model)
    (valid : model.isValid resource.schema = true) :
    ∃ normal, ofResource resource.schema document = .ok normal ∧
      (∀ violation, violation ∈ normal.violations resource.schema ↔
        BlankNumber resource.schema model violation) ∧
      (normal.isValid resource.schema = true ↔
        ∀ violation, ¬BlankNumber resource.schema model violation) := by
  have steady : model.IsSteady resource.schema :=
    ⟨resource.isDistinct, resource.isSteady, isDistinct_ofJson maps read, List.isEmpty_iff.mp valid⟩
  have same := mem_violations_normalize_iff steady
  refine ⟨resource.schema.normalize model, by rw [ofResource, read]; rfl, same, ?_⟩
  rw [isValid, List.isEmpty_iff, List.eq_nil_iff_forall_not_mem]
  exact forall_congr' fun violation => not_congr (same violation)

section Mask

/-- A policy with one rule, whose filter has an address and a blank text for its mask. -/
def blankMask : Record := sourcePolicy (filterSource "10.0.0.1" (.text ""))

/-- The blank mask is looked at, since the filter has an address. -/
theorem blankMask_blankNumber :
    BlankNumber .trafficPolicy blankMask ⟨maskPath, .notANumber "Mask"⟩ := by
  have rules : ("traffic_rules", .list "Traffic Rules" (.composite "Traffic Rule" .trafficRule)) ∈
      Schema.trafficPolicy.fields := List.mem_of_getElem? (i := 2) rfl
  have source : ("source", .composite "Source" (.trafficSelector "Source")) ∈
      Schema.trafficRule.fields := List.mem_of_getElem? (i := 2) rfl
  have filter : ("ip_filter", .composite "IP Filter" .ipFilter) ∈
      (Schema.trafficSelector "Source").fields := List.mem_of_getElem? (i := 2) rfl
  have mask : ("mask", .mask) ∈ Schema.ipFilter.fields := List.mem_of_getElem? (i := 1) rfl
  have rule : Inspected .trafficPolicy blankMask [.field "traffic_rules", .index 0]
      (.record .trafficRule (("priority", .int 1) :: filterSource "10.0.0.1" (.text ""))) :=
    .opened (.listed .form rules rfl rfl rfl rfl) rfl
  have inFilter := (rule.part source rfl rfl rfl ⟨_, List.mem_of_getElem? (i := 1) rfl, rfl⟩).part
    filter rfl rfl rfl ⟨_, List.mem_of_getElem? (i := 0) rfl, rfl⟩
  exact .mk (.member inFilter mask rfl rfl) rfl rfl

theorem blankMask_violations :
    blankMask.toJson.isDistinct = true ∧ ofJson blankMask.toJson = .ok blankMask ∧
      blankMask.isValid .trafficPolicy = true ∧
      ∃ normal, ofResource .trafficPolicy blankMask.toJson = .ok normal ∧
        ⟨maskPath, .notANumber "Mask"⟩ ∈ normal.violations .trafficPolicy ∧
        normal.isValid .trafficPolicy = false := by
  have maps : blankMask.toJson.isDistinct = true := by decide
  have read : ofJson blankMask.toJson = .ok blankMask := rfl
  have valid : blankMask.isValid .trafficPolicy = true := by decide
  obtain ⟨normal, opened, reported, sound⟩ :=
    violations_ofResource .trafficPolicy _ maps _ read valid
  refine ⟨maps, read, valid, normal, opened, (reported _).mpr blankMask_blankNumber, ?_⟩
  exact eq_false_of_ne_true fun fine => sound.mp fine _ blankMask_blankNumber

/-- A valid document with a blank mask opens as a form that is not valid. -/
theorem valid_opened_invalid :
    ¬∀ (resource : Resource) (document : Json) (model normal : Record),
      document.isDistinct = true → ofJson document = .ok model →
      model.isValid resource.schema = true →
      ofResource resource.schema document = .ok normal →
      normal.isValid resource.schema = true := by
  intro kept
  have valid := kept .trafficPolicy blankMask.toJson blankMask _ (by decide) rfl (by decide) rfl
  revert valid
  decide

end Mask

end Record

end ResourceEditor
