import ResourceEditor.Proofs.Edit.Normalization
import ResourceEditor.Proofs.Validation.Composition
import ResourceEditor.Schema.Resource
/-
This file says for which schemas a form is as filled in after it is normalized as it was before:
blank member records stay blank, valid ones that are filled in stay so, and what is seeded is valid.
-/

namespace ResourceEditor

mutual

/-- Whether a check holds of every field of the schema and of the records below it. -/
def Schema.everyField (check : Field → Bool) : Schema → Bool
  | ⟨_, fields, _, _⟩ => Schema.everyFieldOf check fields

def Schema.everyFieldOf (check : Field → Bool) : List (String × Field) → Bool
  | [] => true
  | (_, field) :: rest =>
      check field && field.everyFieldBelow check && Schema.everyFieldOf check rest

def Field.everyFieldBelow (check : Field → Bool) : Field → Bool
  | ⟨_, _, shape⟩ => shape.everyFieldBelow check

def Shape.everyFieldBelow (check : Field → Bool) : Shape → Bool
  | .scalar _ => true
  | .composite schema => schema.everyField check
  | .list item _ => item.everyFieldBelow check

end

theorem Schema.everyFieldOf_iff (check : Field → Bool) (fields : List (String × Field)) :
    Schema.everyFieldOf check fields = true ↔
      ∀ pair ∈ fields, check pair.2 = true ∧ pair.2.everyFieldBelow check = true := by
  induction fields with
  | nil => simp [Schema.everyFieldOf]
  | cons pair rest ih => simp [Schema.everyFieldOf, ih]

theorem Schema.everyField_iff (check : Field → Bool) (schema : Schema) :
    schema.everyField check = true ↔
      ∀ pair ∈ schema.fields, check pair.2 = true ∧ pair.2.everyFieldBelow check = true := by
  obtain ⟨title, fields, required, orders⟩ := schema
  exact Schema.everyFieldOf_iff check fields

theorem Field.everyFieldBelow_eq (check : Field → Bool) (field : Field) :
    field.everyFieldBelow check = field.shape.everyFieldBelow check := by
  obtain ⟨title, readOnly, shape⟩ := field
  rfl

/-- Whether normalizing a valid form leaves a field as filled in as it was. A number or a record
that is not checked could become blank, and a member record that has a dynamic list is never blank.
What a dynamic list starts with has to be valid. -/
def Field.isSteady (field : Field) : Bool :=
  match field.shape with
  | .scalar rule => !field.readOnly || rule.kind != .number
  | .composite below => !field.readOnly && below.dynamicLists.isEmpty
  | .list item dynamic =>
      !dynamic || (item.entryViolations [] (item.normalize item.templateEntry)).isEmpty

/-- Whether the schema is steady, with all records below it. -/
def Schema.isSteady (schema : Schema) : Bool := schema.everyField Field.isSteady

theorem Resource.isSteady (resource : Resource) : resource.schema.isSteady = true := by
  cases resource <;> decide

section Steady

variable {schema : Schema} {field : Field} {name : String}

theorem Schema.isSteady_field (steady : schema.isSteady = true)
    (declared : (name, field) ∈ schema.fields) :
    field.isSteady = true ∧ field.everyFieldBelow Field.isSteady = true :=
  (schema.everyField_iff Field.isSteady).mp steady _ declared

theorem Field.isSteady_composite {below : Schema} (steady : field.isSteady = true)
    (shape : field.shape = .composite below) :
    field.readOnly = false ∧ below.dynamicLists = [] := by
  rw [isSteady, shape, Bool.and_eq_true, Bool.not_eq_true', List.isEmpty_iff] at steady
  exact steady

/-- There is nothing wrong with what a dynamic list starts with, wherever the list is. -/
theorem Field.violations_seed {item : Field} (steady : field.isSteady = true)
    (shape : field.shape = .list item true) (required : Bool) (path : Path) :
    field.violations required path (some (.list [item.normalize item.templateEntry])) = [] := by
  cases editable : field.readOnly with
  | true => exact violations_readOnly editable
  | false =>
      simp only [isSteady, shape, Bool.not_true, Bool.false_or, List.isEmpty_iff] at steady
      have moved := (reportsAnywhere.2 item).entry (path.entry 0) []
        (item.normalize item.templateEntry)
      rw [List.append_nil, steady, List.map_nil] at moved
      rw [violations_filled editable (.inl rfl), shape, Shape.violations]
      simpa using moved

end Steady

namespace Field

theorem integer?_normalize (field : Field) (value : Value) :
    (field.normalize value).integer? = value.integer? := by
  obtain ⟨title, readOnly, shape⟩ := field
  cases shape with
  | scalar rule =>
      obtain ⟨kind, minimum, maximum, pattern, allowed, default⟩ := rule
      cases kind <;> cases value <;> rfl
  | _ => cases value <;> rfl

/-- Of what is blank only a blank text is read as the mark for malformed numbers. -/
theorem eq_or_blank_of_isNaN (field : Field) {value : Value} (blank : value.isEmpty = true)
    (mark : (field.normalize value).isNaN = true) :
    field.normalize value = value ∨
      value = .text "" ∧ ∃ rule, field.shape = .scalar rule ∧ rule.kind = .number := by
  cases shape : field.shape with
  | scalar rule =>
      obtain same | ⟨kind, raw, rfl, _⟩ := field.normalize_scalar shape value
      · exact .inl same
      · have none : raw = "" := by simpa [Value.isEmpty] using blank
        subst none
        exact .inr ⟨rfl, rule, rfl, kind⟩
  | composite below =>
      obtain other | ⟨members, rfl⟩ := value.record?_cases
      · exact .inl (normalize_of_record? shape other)
      · rw [normalize_record shape] at mark
        cases mark
  | list item dynamic =>
      obtain other | ⟨entries, rfl⟩ := value.list?_cases
      · exact .inl (normalize_of_list? shape other)
      · rw [normalize_list shape] at mark
        cases mark

end Field

section Orders

variable {schema : Schema}

theorem OrderRule.isBroken_normalize (rule : OrderRule) (distinct : schema.isDistinct = true)
    (record : Record) : rule.isBroken (schema.normalize record) = rule.isBroken record := by
  have same (name : String) :
      (Members.get? (schema.normalize record) name).bind Value.integer? =
        (Members.get? record name).bind Value.integer? := by
    cases declared : schema.field? name with
    | none => rw [Schema.get?_normalize_of_undeclared declared]
    | some field =>
        obtain same | ⟨lacks, item, _, seeded⟩ :=
          Schema.get?_normalize_cases distinct (Members.mem_of_get? declared) record
        · rw [same, Option.bind_map]
          congr 1
          funext value
          exact field.integer?_normalize value
        · -- neither a list nor its absence is an integer
          rw [record.lacksEntries_iff] at lacks
          rw [seeded]
          cases held : Members.get? record name with
          | none => rfl
          | some value =>
              rw [lacks value held]
              rfl
  rw [isBroken, isBroken, same, same]

theorem Schema.orderViolations_normalize (distinct : schema.isDistinct = true) (path : Path)
    (record : Record) :
    schema.orderViolations path (schema.normalize record) = schema.orderViolations path record := by
  rw [orderViolations, orderViolations]
  simp only [OrderRule.isBroken_normalize _ distinct]

end Orders

section Blank

theorem Value.allEmpty_iff (members : Record) :
    Value.allEmpty members = true ↔ ∀ pair ∈ members, pair.2.isEmpty = true := by
  induction members with
  | nil => simp [Value.allEmpty]
  | cons pair rest ih => simp [Value.allEmpty, ih]

/-- A blank record of a schema without dynamic lists stays blank. -/
def Schema.KeepsBlank (schema : Schema) : Prop :=
  schema.isSteady = true → schema.dynamicLists = [] → ∀ record : Record,
    (Value.record record).isEmpty = true → (Value.record (schema.normalize record)).isEmpty = true

def Field.KeepsBlank (field : Field) : Prop :=
  field.isSteady = true → field.everyFieldBelow Field.isSteady = true → ∀ value : Value,
    value.isEmpty = true → (field.normalize value).isEmpty = true

theorem Schema.isEmpty_normalizeMembers {fields : List (String × Field)}
    (each : ∀ pair ∈ fields, pair.2.isDynamicList = false ∧
      ∀ value : Value, value.isEmpty = true → (pair.2.normalize value).isEmpty = true)
    {record : Record} (blank : (Value.record record).isEmpty = true) :
    (Value.record (Schema.normalizeMembers fields record)).isEmpty = true := by
  induction fields generalizing record with
  | nil =>
      rw [normalizeMembers]
      exact blank
  | cons pair rest ih =>
      obtain ⟨name, field⟩ := pair
      obtain ⟨⟨still, keeps⟩, others⟩ := List.forall_mem_cons.mp each
      rw [normalizeMembers_cons]
      refine ih others ?_
      have same : field.seed name record = record := by simp [Field.seed, still]
      rw [Field.normalizeIn, same]
      split
      next value held =>
        rw [Value.isEmpty, Value.allEmpty_iff] at blank ⊢
        intro pair member
        obtain rfl | there := Members.mem_of_mem_set member
        · exact keeps value (blank _ (Members.mem_of_get? held))
        · exact blank pair there
      next => exact blank

theorem keepsBlank :
    (∀ schema : Schema, schema.KeepsBlank) ∧ ∀ field : Field, field.KeepsBlank := by
  refine Schema.descent Schema.KeepsBlank Field.KeepsBlank ?_ ?_ ?_ ?_
  · intro schema fields steady static record blank
    have each := (schema.everyField_iff Field.isSteady).mp steady
    obtain ⟨title, fields, required, orders⟩ := schema
    rw [Schema.normalize]
    refine Schema.isEmpty_normalizeMembers (fun pair declared => ⟨?_, ?_⟩) blank
    · simp only [Schema.dynamicLists, List.map_eq_nil_iff, List.filter_eq_nil_iff] at static
      exact eq_false_of_ne_true (static pair declared)
    · exact fields pair declared (each pair declared).1 (each pair declared).2
  · intro title readOnly rule steady below value blank
    obtain same | ⟨_, raw, rfl, read⟩ := Field.normalize_scalar ⟨title, readOnly, _⟩ rfl value
    · rw [same]
      exact blank
    · rw [read]
      have none : raw = "" := by simpa [Value.isEmpty] using blank
      subst none
      decide
  · intro title readOnly schema inside steady below value blank
    obtain other | ⟨members, rfl⟩ := value.record?_cases
    · rw [Field.normalize_of_record? rfl other]
      exact blank
    · rw [Field.normalize_record rfl]
      exact inside below (Field.isSteady_composite steady rfl).2 members blank
  · intro title readOnly item dynamic inside steady below value blank
    obtain other | ⟨entries, rfl⟩ := value.list?_cases
    · rw [Field.normalize_of_list? rfl other]
      exact blank
    · rw [Field.normalize_list rfl]
      simpa [Value.isEmpty] using blank

end Blank

section Filled

theorem Value.ne_empty_list {value : Value} (filled : value.isEmpty = false) :
    value ≠ .list [] := by
  rintro rfl
  cases filled

/-- A valid record in which something is filled in is no blank record after it is normalized. -/
def Schema.KeepsFilled (schema : Schema) : Prop :=
  schema.isDistinct = true → schema.isSteady = true → ∀ path (record : Record),
    record.isDistinct = true → schema.violations path record = [] →
    (Value.record record).isEmpty = false → (Value.record (schema.normalize record)).isEmpty = false

def Field.KeepsFilled (field : Field) : Prop :=
  field.isDistinct = true → field.isSteady = true → field.everyFieldBelow Field.isSteady = true →
    ∀ required path (value : Value), value.isDistinct = true →
      field.violations required path (some value) = [] → value.isEmpty = false →
      (field.normalize value).isEmpty = false

/-- A text in which a rule finds nothing wrong is read as a number. -/
theorem ScalarRule.isEmpty_coerce {rule : ScalarRule} (kind : rule.kind = .number) {title : String}
    {path : Path} {raw : String} (valid : rule.violations title path (.text raw) = []) :
    (Value.number (Number.coerce raw)).isEmpty = false := by
  cases read : Number.coerce raw with
  | int number => rfl
  | notANumber =>
      have malformed : (Value.text raw).integer? = none := by rw [Value.integer?, read]; rfl
      rw [violations, causes_number title rfl kind, numberCauses, malformed] at valid
      cases valid

theorem Schema.keepsFilled_of_fields {schema : Schema}
    (fields : ∀ pair ∈ schema.fields, pair.2.KeepsFilled) : schema.KeepsFilled := by
  intro distinct steady path record maps valid filled
  obtain ⟨⟨name, value⟩, member, full⟩ := (Value.allEmpty_eq_false_iff record).mp filled
  obtain ⟨names, inner⟩ := (Value.isDistinct_record record).mp maps
  have held := Members.get?_of_mem names member
  suffices stays : ∃ other, Members.get? (schema.normalize record) name = some other ∧
      other.isEmpty = false by
    obtain ⟨other, there, still⟩ := stays
    exact Value.isEmpty_record ⟨_, Members.mem_of_get? there, still⟩
  cases found : schema.field? name with
  | none => exact ⟨value, (Schema.get?_normalize_of_undeclared found record).trans held, full⟩
  | some field =>
      have declared := Members.mem_of_get? found
      obtain ⟨own, below⟩ := Schema.isSteady_field steady declared
      have sound := Schema.field_violations_eq_nil valid declared
      rw [held] at sound
      exact ⟨_, Schema.get?_normalize_of_get? distinct declared held (Value.ne_empty_list full),
        fields _ declared (Schema.isDistinct_of_field? distinct found) own below _ _ value
          (inner _ member) sound full⟩

theorem keepsFilled :
    (∀ schema : Schema, schema.KeepsFilled) ∧ ∀ field : Field, field.KeepsFilled := by
  refine Schema.descent Schema.KeepsFilled Field.KeepsFilled
    (fun _ => Schema.keepsFilled_of_fields) ?_ ?_ ?_
  · intro title readOnly rule distinct steady below required path value maps valid filled
    obtain same | ⟨kind, raw, rfl, read⟩ := Field.normalize_scalar ⟨title, readOnly, _⟩ rfl value
    · rw [same]
      exact filled
    · have editable : readOnly = false := by simpa [Field.isSteady, kind] using steady
      rw [Field.violations_filled editable (.inl filled)] at valid
      rw [read]
      exact ScalarRule.isEmpty_coerce kind valid
  · intro title readOnly schema inside distinct steady below required path value maps valid filled
    obtain other | ⟨members, rfl⟩ := value.record?_cases
    · rw [Field.normalize_of_record? rfl other]
      exact filled
    · have editable := (Field.isSteady_composite steady rfl).1
      have some := (Value.allEmpty_eq_false_iff members).mp filled
      rw [Field.violations_filled editable (.inl filled), Shape.violations_record some] at valid
      rw [Field.normalize_record rfl]
      exact inside distinct below path members maps valid filled
  · intro title readOnly item dynamic inside distinct steady below required path value maps valid
      filled
    -- a list keeps its entries, whatever they are
    obtain other | ⟨entries, rfl⟩ := value.list?_cases
    · rw [Field.normalize_of_list? rfl other]
      exact filled
    · rw [Field.normalize_list rfl]
      simpa [Value.isEmpty] using filled

end Filled

end ResourceEditor
