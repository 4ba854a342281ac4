import Mathlib.Data.List.Range
import ResourceEditor.Proofs.Validation.Due
/-
This file shows that what validation reports below a place depends on that place alone.
-/

namespace ResourceEditor

namespace Violation

/-- The violations at a path and below it. -/
def allBelow (violations : List Violation) (path : Path) : List Violation :=
  violations.filter fun violation => path.isPrefixOf violation.path

theorem mem_allBelow {violations : List Violation} {path : Path} {violation : Violation} :
    violation ∈ allBelow violations path ↔ violation ∈ violations ∧ path <+: violation.path := by
  rw [allBelow, List.mem_filter, List.isPrefixOf_iff_prefix]

theorem allBelow_append (first second : List Violation) (path : Path) :
    allBelow (first ++ second) path = allBelow first path ++ allBelow second path :=
  List.filter_append ..

theorem allBelow_eq_self {violations : List Violation} {path : Path}
    (below : ∀ violation ∈ violations, path <+: violation.path) :
    allBelow violations path = violations := by
  rw [allBelow, List.filter_eq_self]
  intro violation member
  exact List.isPrefixOf_iff_prefix.mpr (below violation member)

theorem allBelow_eq_nil {violations : List Violation} {path : Path}
    (beside : ∀ violation ∈ violations, ¬path <+: violation.path) :
    allBelow violations path = [] := by
  rw [allBelow, List.filter_eq_nil_iff]
  intro violation member isBelow
  exact beside violation member (List.isPrefixOf_iff_prefix.mp isBelow)

theorem allBelow_allBelow (violations : List Violation) {path longer : Path}
    (further : path <+: longer) :
    allBelow (allBelow violations path) longer = allBelow violations longer := by
  rw [allBelow, allBelow, List.filter_filter]
  apply List.filter_congr
  intro violation _
  cases isBelow : longer.isPrefixOf violation.path with
  | false => rfl
  | true =>
      have reached := further.trans (List.isPrefixOf_iff_prefix.mp isBelow)
      rw [List.isPrefixOf_iff_prefix.mpr reached]
      rfl

/-- Of several parts with keys of their own, only one reports below a path. -/
theorem allBelow_flatMap {α κ : Type} {parts : List α} {key : α → κ} {path : Path}
    {report : α → List Violation} (distinct : (parts.map key).Nodup) {part : α}
    (member : part ∈ parts)
    (beside : ∀ other ∈ parts, key other ≠ key part →
      ∀ violation ∈ report other, ¬path <+: violation.path) :
    allBelow (parts.flatMap report) path = allBelow (report part) path := by
  induction parts with
  | nil => cases member
  | cons first rest ih =>
      rw [List.map_cons, List.nodup_cons] at distinct
      rw [List.flatMap_cons, allBelow_append]
      obtain ⟨fresh, distinct⟩ := distinct
      obtain rfl | inRest := List.mem_cons.mp member
      · have nothing : allBelow (rest.flatMap report) path = [] := by
          apply allBelow_eq_nil
          intro violation reported
          obtain ⟨other, there, reported⟩ := List.mem_flatMap.mp reported
          refine beside other (List.mem_cons_of_mem _ there) ?_ violation reported
          intro same
          exact fresh (same ▸ List.mem_map_of_mem there)
        rw [nothing, List.append_nil]
      · have different : key first ≠ key part := by
          intro same
          exact fresh (same ▸ List.mem_map_of_mem inRest)
        rw [allBelow_eq_nil (beside first List.mem_cons_self different), List.nil_append]
        exact ih distinct inRest fun other there => beside other (List.mem_cons_of_mem _ there)

end Violation

open Violation

/-- What is reported about a field lies at its place or below it. -/
def Field.ReportsBelow (field : Field) : Prop :=
  ∀ path value, (∀ violation ∈ field.shape.violations field.title path value,
      path <+: violation.path) ∧
    ∀ violation ∈ field.entryViolations path value, path <+: violation.path

/-- What is reported about a record lies below one of its names. -/
def Schema.ReportsBelow (schema : Schema) : Prop :=
  ∀ path record, ∀ violation ∈ schema.violations path record,
    ∃ name, path.child name <+: violation.path

theorem Schema.reportsBelow_of_fields {schema : Schema}
    (fields : ∀ pair ∈ schema.fields, pair.2.ReportsBelow) : schema.ReportsBelow := by
  intro path record violation reported
  rw [Schema.violations_eq] at reported
  obtain reported | reported := List.mem_append.mp reported
  · obtain ⟨name, field, declared, reported⟩ := Schema.mem_fieldViolations.mp reported
    refine ⟨name, ?_⟩
    obtain ⟨_, ⟨_, _, rfl⟩ | ⟨value, _, _, reported⟩⟩ := Field.mem_violations reported
    · exact List.prefix_refl _
    · exact (fields _ declared _ value).1 violation reported
  · obtain ⟨rule, _, _, rfl⟩ := Schema.mem_orderViolations.mp reported
    exact ⟨rule.lower, List.prefix_refl _⟩

theorem ScalarRule.path_of_mem {rule : ScalarRule} {title : String} {path : Path} {value : Value}
    {violation : Violation} (reported : violation ∈ rule.violations title path value) :
    path <+: violation.path := by
  obtain ⟨rfl, _⟩ := ScalarRule.mem_violations.mp reported
  exact List.prefix_refl _

theorem Field.reportsBelow_scalar (title : String) (readOnly : Bool) (rule : ScalarRule) :
    Field.ReportsBelow ⟨title, readOnly, .scalar rule⟩ := by
  intro path value
  refine ⟨fun violation => ScalarRule.path_of_mem, ?_⟩
  intro violation reported
  rw [Field.entryViolations_eq, Shape.entryViolations] at reported
  split at reported
  · cases reported
  · exact ScalarRule.path_of_mem reported

theorem Field.reportsBelow_composite (title : String) (readOnly : Bool) {below : Schema}
    (inside : below.ReportsBelow) : Field.ReportsBelow ⟨title, readOnly, .composite below⟩ := by
  intro path value
  have within {members : Record} {violation : Violation}
      (reported : violation ∈ below.violations path members) : path <+: violation.path := by
    obtain ⟨name, further⟩ := inside path members violation reported
    exact (path.prefix_child name).trans further
  obtain other | ⟨members, rfl⟩ := value.record?_cases
  · rw [Shape.violations_notObject other, Field.entryViolations_eq,
      Shape.entryViolations_notObject other]
    simp
  · refine ⟨?_, fun violation => within⟩
    intro violation reported
    dsimp only [Shape.violations] at reported
    split at reported
    · cases reported
    · exact within reported

theorem Field.reportsBelow_list (title : String) (readOnly : Bool) {item : Field} (dynamic : Bool)
    (inside : item.ReportsBelow) : Field.ReportsBelow ⟨title, readOnly, .list item dynamic⟩ := by
  intro path value
  have within {entries : List Value} {violation : Violation}
      (reported : violation ∈ item.entriesViolations path entries) : path <+: violation.path := by
    obtain ⟨position, entry, _, reported⟩ := Field.mem_entriesViolations.mp reported
    exact (path.prefix_entry position).trans ((inside _ entry).2 violation reported)
  obtain other | ⟨entries, rfl⟩ := value.list?_cases
  · rw [Shape.violations_notList other, Field.entryViolations_eq,
      Shape.entryViolations_notList other]
    simp
  · exact ⟨fun violation => within, fun violation => within⟩

theorem reportsBelow : (∀ schema : Schema, schema.ReportsBelow) ∧
    ∀ field : Field, field.ReportsBelow :=
  Schema.descent Schema.ReportsBelow Field.ReportsBelow (fun _ => Schema.reportsBelow_of_fields)
    Field.reportsBelow_scalar (fun title readOnly _ => Field.reportsBelow_composite title readOnly)
    (fun title readOnly _ dynamic => Field.reportsBelow_list title readOnly dynamic)

theorem Field.prefix_of_mem {field : Field} {required : Bool} {path : Path} {held : Option Value}
    {violation : Violation} (reported : violation ∈ field.violations required path held) :
    path <+: violation.path := by
  obtain ⟨_, ⟨_, _, rfl⟩ | ⟨value, _, _, reported⟩⟩ := Field.mem_violations reported
  · exact List.prefix_refl _
  · exact (reportsBelow.2 field path value).1 violation reported

/-- A broken rule needs an integer at its lower field. -/
theorem OrderRule.isBroken_of_none {rule : OrderRule} {record : Record}
    (none : (Members.get? record rule.lower).bind Value.integer? = none) :
    rule.isBroken record = false := by
  rw [isBroken, none]
  rfl

namespace Schema

variable {schema : Schema} {path : Path} {record : Record} {name : String}

/-- Below the name of a field, a record reports what the field does and what its rules say. -/
theorem allBelow_child (distinct : schema.isDistinct = true) {field : Field}
    (declared : (name, field) ∈ schema.fields) :
    allBelow (schema.violations path record) (path.child name) =
      field.violations (schema.required.contains name) (path.child name)
          (Members.get? record name) ++
        allBelow (schema.orderViolations path record) (path.child name) := by
  rw [violations_eq, allBelow_append]
  congr 1
  have only : allBelow (schema.fieldViolations path record) (path.child name) =
      allBelow (field.violations (schema.required.contains name) (path.child name)
        (Members.get? record name)) (path.child name) := by
    refine allBelow_flatMap (schema.isDistinct_iff.mp distinct).1 declared ?_
    intro other _ different violation reported isBelow
    exact different (Path.child_eq (Field.prefix_of_mem reported) isBelow)
  rw [only]
  exact allBelow_eq_self fun violation => Field.prefix_of_mem

theorem allBelow_orderViolations
    (noInteger : (Members.get? record name).bind Value.integer? = none) :
    allBelow (schema.orderViolations path record) (path.child name) = [] := by
  apply allBelow_eq_nil
  intro violation reported isBelow
  obtain ⟨rule, _, broken, rfl⟩ := mem_orderViolations.mp reported
  have same : name = rule.lower := Path.child_eq isBelow (List.prefix_refl _)
  subst same
  rw [OrderRule.isBroken_of_none noInteger] at broken
  cases broken

/-- A field that holds no integer is reported on its own. -/
theorem allBelow_child_of_none (distinct : schema.isDistinct = true) {field : Field}
    (declared : (name, field) ∈ schema.fields)
    (noInteger : (Members.get? record name).bind Value.integer? = none) :
    allBelow (schema.violations path record) (path.child name) =
      field.violations (schema.required.contains name) (path.child name)
        (Members.get? record name) := by
  rw [allBelow_child distinct declared, allBelow_orderViolations noInteger, List.append_nil]

end Schema

/-- Below one position, a list reports what the entry there does. -/
theorem Field.allBelow_entry {item : Field} {path : Path} {entries : List Value} {position : Nat}
    {entry : Value} (there : entries[position]? = some entry) :
    allBelow (item.entriesViolations path entries) (path.entry position) =
      item.entryViolations (path.entry position) entry := by
  have positions : (entries.zipIdx.map Prod.snd).Nodup := by
    rw [List.zipIdx_map_snd]
    exact List.nodup_range'
  have only : allBelow (item.entriesViolations path entries) (path.entry position) =
      allBelow (item.entryViolations (path.entry position) entry) (path.entry position) := by
    refine allBelow_flatMap positions (List.mk_mem_zipIdx_iff_getElem?.mpr there) ?_
    intro other _ different violation reported isBelow
    have prefixed := (reportsBelow.2 item (path.entry other.2) other.1).2 violation reported
    exact different (Path.entry_eq prefixed isBelow)
  rw [only]
  exact allBelow_eq_self (reportsBelow.2 item _ entry).2

def Place.isDistinct : Place → Bool
  | .record schema _ => schema.isDistinct
  | .entry item _ => item.isDistinct

namespace Inspected

variable {form : Schema} {model : Record}

theorem isDistinct (distinct : form.isDistinct = true) {path : Path} {place : Place}
    (inspected : Inspected form model path place) : place.isDistinct = true := by
  induction inspected with
  | form => exact distinct
  | part within declared editable shape held filled ih =>
      have inner := Schema.isDistinct_shape ih declared
      rw [shape] at inner
      exact inner
  | listed within declared editable shape held there ih =>
      have inner := Schema.isDistinct_shape ih declared
      rw [shape] at inner
      exact inner
  | nested within shape there ih =>
      rw [Place.isDistinct, Field.isDistinct_eq, shape] at ih
      exact ih
  | opened within shape ih =>
      rw [Place.isDistinct, Field.isDistinct_eq, shape] at ih
      exact ih

/-- What the form reports at a place and below it is what the place reports. -/
theorem allBelow_eq (distinct : form.isDistinct = true) {path : Path} {place : Place}
    (inspected : Inspected form model path place) :
    allBelow (model.violations form) path = place.violations path := by
  induction inspected with
  | form => exact allBelow_eq_self fun violation _ => List.nil_prefix
  | @part path schema below record members name field within declared editable shape held filled
      ih =>
      have noInteger : (Members.get? record name).bind Value.integer? = none := by rw [held]; rfl
      calc allBelow (model.violations form) (path.child name)
          = allBelow (schema.violations path record) (path.child name) := by
            rw [← allBelow_allBelow _ (path.prefix_child name), ih, Place.violations]
        _ = field.violations (schema.required.contains name) (path.child name)
              (some (.record members)) := by
            rw [Schema.allBelow_child_of_none (within.isDistinct distinct) declared noInteger, held]
        _ = below.violations (path.child name) members := by
            rw [Field.violations_filled editable (.inl (Value.isEmpty_record filled)), shape,
              Shape.violations_record filled]
  | @listed path schema record name field item dynamic entries position entry within declared
      editable shape held there ih =>
      have noInteger : (Members.get? record name).bind Value.integer? = none := by rw [held]; rfl
      have reported : allBelow (model.violations form) (path.child name) =
          item.entriesViolations (path.child name) entries := by
        rw [← allBelow_allBelow _ (path.prefix_child name), ih, Place.violations,
          Schema.allBelow_child_of_none (within.isDistinct distinct) declared noInteger, held,
          Field.violations_filled editable (.inl (Value.isEmpty_list there)), shape]
        rfl
      rw [← allBelow_allBelow _ (Path.prefix_entry _ position), reported]
      exact Field.allBelow_entry there
  | @nested path item inner dynamic entries position entry within shape there ih =>
      rw [← allBelow_allBelow _ (path.prefix_entry position), ih, Place.violations,
        Field.entryViolations_eq, shape]
      exact Field.allBelow_entry there
  | @opened path item below members within shape ih =>
      rw [ih]
      change item.entryViolations path (.record members) = below.violations path members
      rw [Field.entryViolations_eq, shape]
      rfl

/-- Below the name of a field that is looked at, the form reports what the record there does. -/
theorem allBelow_child (distinct : form.isDistinct = true) {path : Path} {schema : Schema}
    {record : Record} (inspected : Inspected form model path (.record schema record))
    {name : String} {field : Field} (declared : (name, field) ∈ schema.fields) :
    allBelow (model.violations form) (path.child name) =
      field.violations (schema.required.contains name) (path.child name)
          (Members.get? record name) ++
        allBelow (schema.orderViolations path record) (path.child name) := by
  rw [← allBelow_allBelow _ (path.prefix_child name), inspected.allBelow_eq distinct]
  exact Schema.allBelow_child (inspected.isDistinct distinct) declared

end Inspected

end ResourceEditor
