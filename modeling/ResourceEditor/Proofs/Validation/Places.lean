import ResourceEditor.Path.Basic
import ResourceEditor.Proofs.Schema.Nesting
import ResourceEditor.Proofs.Validation.Scalar
import ResourceEditor.Proofs.Value.Lookup
/-
This file takes validation apart: what each description reports about what is below it, and that
all of it lies below the place where it stands.
-/

namespace ResourceEditor

/-- The violations of the entries of a list that is at a path. -/
def Field.entriesViolations (item : Field) (path : Path) (entries : List Value) :
    List Violation :=
  entries.zipIdx.flatMap fun (entry, position) =>
    item.entryViolations (path.entry position) entry

theorem Field.mem_entriesViolations {item : Field} {path : Path} {entries : List Value}
    {violation : Violation} :
    violation ∈ item.entriesViolations path entries ↔
      ∃ position entry, entries[position]? = some entry ∧
        violation ∈ item.entryViolations (path.entry position) entry := by
  rw [entriesViolations, List.mem_flatMap]
  constructor
  · rintro ⟨⟨entry, position⟩, member, reported⟩
    exact ⟨position, entry, List.mk_mem_zipIdx_iff_getElem?.mp member, reported⟩
  · rintro ⟨position, entry, there, reported⟩
    exact ⟨(entry, position), List.mk_mem_zipIdx_iff_getElem?.mpr there, reported⟩

/-- Lists have one report if what is reported about their entries is one, position by position. -/
theorem Field.entriesViolations_congr {item : Field} {path : Path} {entries others : List Value}
    (length : entries.length = others.length)
    (each : ∀ (position : Nat) entry other, entries[position]? = some entry →
      others[position]? = some other →
      item.entryViolations (path.entry position) entry =
        item.entryViolations (path.entry position) other) :
    item.entriesViolations path entries = item.entriesViolations path others := by
  rw [entriesViolations, entriesViolations, List.flatMap_def, List.flatMap_def]
  congr 1
  refine List.ext_getElem? fun position => ?_
  simp only [List.getElem?_map, List.getElem?_zipIdx, Option.map_map]
  cases held : entries[position]? with
  | none =>
      rw [List.getElem?_eq_none_iff, length, ← List.getElem?_eq_none_iff] at held
      rw [held]
  | some entry =>
      have within : position < others.length := length ▸ (List.getElem?_eq_some_iff.mp held).1
      have there := List.getElem?_eq_getElem within
      have same := each position entry _ held there
      rw [there]
      simpa using same

section Shapes

variable {title : String} {path : Path} {value : Value}

theorem ScalarRule.mem_violations {rule : ScalarRule} {violation : Violation} :
    violation ∈ rule.violations title path value ↔
      violation.path = path ∧ violation.cause ∈ rule.causes title value := by
  rw [violations, List.mem_map]
  constructor
  · rintro ⟨cause, found, rfl⟩
    exact ⟨rfl, found⟩
  · rintro ⟨rfl, found⟩
    exact ⟨violation.cause, found, rfl⟩

theorem Shape.violations_record {below : Schema} {members : Record}
    (filled : ∃ member ∈ members, member.2.isEmpty = false) :
    (Shape.composite below).violations title path (.record members) =
      below.violations path members := by
  rw [Shape.violations, (Value.allEmpty_eq_false_iff members).mpr filled]
  rfl

theorem Shape.violations_notObject {below : Schema} (other : value.record? = none) :
    (Shape.composite below).violations title path value = [⟨path, .notObject title⟩] := by
  cases value with
  | record members => cases other
  | _ => rfl

theorem Shape.violations_notList {item : Field} {dynamic : Bool} (other : value.list? = none) :
    (Shape.list item dynamic).violations title path value = [⟨path, .notList title⟩] := by
  cases value with
  | list entries => cases other
  | _ => rfl

theorem Shape.entryViolations_notObject {below : Schema} (other : value.record? = none) :
    (Shape.composite below).entryViolations title path value = [⟨path, .notObject title⟩] := by
  cases value with
  | record members => cases other
  | _ => rfl

theorem Shape.entryViolations_notList {item : Field} {dynamic : Bool}
    (other : value.list? = none) :
    (Shape.list item dynamic).entryViolations title path value = [⟨path, .notList title⟩] := by
  cases value with
  | list entries => cases other
  | _ => rfl

end Shapes

namespace Field

variable {field : Field} {required : Bool} {path : Path} {held : Option Value}

theorem violations_readOnly (readOnly : field.readOnly = true) :
    field.violations required path held = [] := by
  obtain ⟨title, other, shape⟩ := field
  cases readOnly
  rfl

theorem violations_required (editable : field.readOnly = false)
    (blank : ∀ value, held = some value → value.isEmpty = true) :
    field.violations true path held = [⟨path, .required field.title⟩] := by
  obtain ⟨title, other, shape⟩ := field
  cases editable
  cases held with
  | none => rfl
  | some value => simp [Field.violations, blank value rfl]

theorem violations_unfilled (editable : field.readOnly = false)
    (blank : ∀ value, held = some value → value.isEmpty = true ∧ value.isNaN = false) :
    field.violations false path held = [] := by
  obtain ⟨title, other, shape⟩ := field
  cases editable
  cases held with
  | none => rfl
  | some value => simp [Field.violations, Value.isUnfilled, blank value rfl]

theorem violations_filled {value : Value} (editable : field.readOnly = false)
    (filled : value.isEmpty = false ∨ (value.isNaN = true ∧ required = false)) :
    field.violations required path (some value) =
      field.shape.violations field.title path value := by
  obtain ⟨title, other, shape⟩ := field
  cases editable
  obtain filled | ⟨malformed, rfl⟩ := filled
  · simp [Field.violations, Value.isUnfilled, filled]
  · simp [Field.violations, Value.isUnfilled, malformed]

/-- A field that is required and empty is reported as such, one that is filled in by its shape. -/
theorem violations_cases (field : Field) (required : Bool) (path : Path) (held : Option Value) :
    field.violations required path held = [] ∨
      (field.readOnly = false ∧ required = true ∧
        (∀ value, held = some value → value.isEmpty = true) ∧
        field.violations required path held = [⟨path, .required field.title⟩]) ∨
      ∃ value, field.readOnly = false ∧ held = some value ∧
        (value.isEmpty = false ∨ (value.isNaN = true ∧ required = false)) ∧
        field.violations required path held = field.shape.violations field.title path value := by
  cases readOnly : field.readOnly with
  | true => exact .inl (violations_readOnly readOnly)
  | false =>
      by_cases blank : ∀ value, held = some value → value.isEmpty = true
      · cases required with
        | true => exact .inr (.inl ⟨rfl, rfl, blank, violations_required readOnly blank⟩)
        | false =>
            by_cases unfilled : ∀ value, held = some value → value.isNaN = false
            · left
              apply violations_unfilled readOnly
              intro value there
              exact ⟨blank value there, unfilled value there⟩
            · simp only [not_forall] at unfilled
              obtain ⟨value, rfl, malformed⟩ := unfilled
              have filled : value.isEmpty = false ∨ (value.isNaN = true ∧ false = false) :=
                .inr ⟨eq_true_of_ne_false malformed, rfl⟩
              exact .inr (.inr ⟨value, rfl, rfl, filled, violations_filled readOnly filled⟩)
      · simp only [not_forall] at blank
        obtain ⟨value, rfl, full⟩ := blank
        have filled : value.isEmpty = false ∨ (value.isNaN = true ∧ required = false) :=
          .inl (eq_false_of_ne_true full)
        exact .inr (.inr ⟨value, rfl, rfl, filled, violations_filled readOnly filled⟩)

theorem mem_violations {violation : Violation}
    (reported : violation ∈ field.violations required path held) :
    field.readOnly = false ∧
      ((required = true ∧ (∀ value, held = some value → value.isEmpty = true) ∧
          violation = ⟨path, .required field.title⟩) ∨
        ∃ value, held = some value ∧
          (value.isEmpty = false ∨ (value.isNaN = true ∧ required = false)) ∧
          violation ∈ field.shape.violations field.title path value) := by
  obtain nothing | ⟨editable, asked, blank, only⟩ | ⟨value, editable, there, filled, all⟩ :=
    field.violations_cases required path held
  · rw [nothing] at reported
    cases reported
  · rw [only, List.mem_singleton] at reported
    exact ⟨editable, .inl ⟨asked, blank, reported⟩⟩
  · rw [all] at reported
    exact ⟨editable, .inr ⟨value, there, filled, reported⟩⟩

theorem entryViolations_eq (path : Path) (value : Value) :
    field.entryViolations path value = field.shape.entryViolations field.title path value := by
  obtain ⟨title, readOnly, shape⟩ := field
  rfl

end Field

theorem Schema.memberViolations_eq (required : List String) (fields : List (String × Field))
    (path : Path) (model : Record) :
    Schema.memberViolations required fields path model =
      fields.flatMap fun pair =>
        pair.2.violations (required.contains pair.1) (path.child pair.1)
          (Members.get? model pair.1) := by
  induction fields with
  | nil => rfl
  | cons pair rest ih =>
      rw [List.flatMap_cons, ← ih]
      rfl

theorem OrderRule.violations_eq (rule : OrderRule) (schema : Schema) (path : Path)
    (model : Record) :
    rule.violations schema.fields path model =
      if rule.isBroken model then [rule.violation schema path] else [] := by
  rw [violations, isBroken]
  cases (Members.get? model rule.lower).bind Value.integer? with
  | none => rfl
  | some low =>
      cases (Members.get? model rule.upper).bind Value.integer? with
      | none => rfl
      | some high => by_cases above : high < low <;> simp [above, violation]

namespace Schema

/-- What the fields of a record report, one after the other. -/
def fieldViolations (schema : Schema) (path : Path) (model : Record) : List Violation :=
  schema.fields.flatMap fun pair =>
    pair.2.violations (schema.required.contains pair.1) (path.child pair.1)
      (Members.get? model pair.1)

theorem violations_eq (schema : Schema) (path : Path) (model : Record) :
    schema.violations path model =
      schema.fieldViolations path model ++ schema.orderViolations path model := by
  have rules (orders : List OrderRule) :
      (orders.flatMap fun rule => rule.violations schema.fields path model) =
        (orders.filter (·.isBroken model)).map (·.violation schema path) := by
    induction orders with
    | nil => rfl
    | cons rule rest ih =>
        rw [List.flatMap_cons, ih, OrderRule.violations_eq]
        cases broken : rule.isBroken model <;> simp [broken]
  rw [fieldViolations, orderViolations, ← rules, ← memberViolations_eq]
  obtain ⟨title, fields, required, orders⟩ := schema
  rw [Schema.violations]

theorem mem_fieldViolations {schema : Schema} {path : Path} {model : Record}
    {violation : Violation} :
    violation ∈ schema.fieldViolations path model ↔
      ∃ name field, (name, field) ∈ schema.fields ∧
        violation ∈ field.violations (schema.required.contains name) (path.child name)
          (Members.get? model name) := by
  rw [fieldViolations, List.mem_flatMap, Prod.exists]

theorem mem_orderViolations {schema : Schema} {path : Path} {model : Record}
    {violation : Violation} :
    violation ∈ schema.orderViolations path model ↔
      ∃ rule ∈ schema.orders, rule.isBroken model = true ∧
        rule.violation schema path = violation := by
  simp [orderViolations, and_assoc]

end Schema

end ResourceEditor
