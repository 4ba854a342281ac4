import ResourceEditor.Proofs.Edit.Refusal
import ResourceEditor.Proofs.Validation.Exactness
import ResourceEditor.Proofs.Validation.Visibility
import ResourceEditor.Schema.Resource
/-
This file shows that what validation reports about a scalar can be amended at the path that the
report gives: the edit there goes through, whatever else is wrong with the form.
-/

namespace ResourceEditor

/-- Whether a name among the fields stands for a number that can be edited. -/
def Schema.hasNumber (fields : List (String × Field)) (name : String) : Bool :=
  (Members.get? fields name).any fun field =>
    !field.readOnly && field.scalar?.any fun rule => rule.kind == .number

mutual

/-- Everywhere in the schema the entries of lists can be edited, and the order rules speak of
numbers that can be edited. -/
def Schema.isAmendable : Schema → Bool
  | ⟨_, fields, _, orders⟩ =>
      (orders.all fun rule =>
        Schema.hasNumber fields rule.lower && Schema.hasNumber fields rule.upper) &&
        Schema.areAmendable fields

def Schema.areAmendable : List (String × Field) → Bool
  | [] => true
  | (_, field) :: rest => field.isAmendable && Schema.areAmendable rest

def Field.isAmendable : Field → Bool
  | ⟨_, _, shape⟩ => shape.isAmendable

def Shape.isAmendable : Shape → Bool
  | .scalar _ => true
  | .composite schema => schema.isAmendable
  | .list item _ => !item.readOnly && item.isAmendable

end

theorem Schema.areAmendable_iff (fields : List (String × Field)) :
    Schema.areAmendable fields = true ↔ ∀ pair ∈ fields, pair.2.isAmendable = true := by
  induction fields with
  | nil => simp [Schema.areAmendable]
  | cons pair rest ih => simp [Schema.areAmendable, ih]

theorem Schema.isAmendable_iff (schema : Schema) :
    schema.isAmendable = true ↔
      (∀ rule ∈ schema.orders, Schema.hasNumber schema.fields rule.lower = true ∧
        Schema.hasNumber schema.fields rule.upper = true) ∧
      ∀ pair ∈ schema.fields, pair.2.isAmendable = true := by
  obtain ⟨title, fields, required, orders⟩ := schema
  simp only [Schema.isAmendable, Bool.and_eq_true, List.all_eq_true, Schema.areAmendable_iff]

theorem Field.isAmendable_eq (field : Field) : field.isAmendable = field.shape.isAmendable := by
  obtain ⟨title, readOnly, shape⟩ := field
  rfl

theorem Field.isAmendable_item {field item : Field} {dynamic : Bool}
    (amendable : field.isAmendable = true) (shape : field.shape = .list item dynamic) :
    item.readOnly = false ∧ item.isAmendable = true := by
  rw [isAmendable_eq, shape, Shape.isAmendable, Bool.and_eq_true, Bool.not_eq_true'] at amendable
  exact amendable

theorem Field.isAmendable_below {field : Field} {below : Schema}
    (amendable : field.isAmendable = true) (shape : field.shape = .composite below) :
    below.isAmendable = true := by
  rwa [isAmendable_eq, shape] at amendable

namespace Place

def isAmendable : Place → Bool
  | .record schema _ => schema.isAmendable
  | .entry item _ => item.isAmendable

/-- Whether a field is the one that describes what stands at a place. -/
def IsOf : Place → Field → Prop
  | .record schema _, field => field.shape = .composite schema
  | .entry item _, field => field = item

end Place

theorem Field.Leads.snoc {field middle leaf : Field} {route : Route} {segment : Segment}
    (leads : field.Leads route middle) (last : middle.Step segment leaf) :
    field.Leads (route ++ [(segment, leaf)]) leaf := by
  induction leads with
  | here => exact .step last (.here leaf)
  | step first others ih => exact .step first (ih last)

/-- An edit gets along a path, through editable fields, to a field and to what the form holds for it
there. -/
def Record.Admits (form : Schema) (model : Record) (path : Path) (field : Field) (held : Value) :
    Prop :=
  ∃ route, route.map Prod.fst = path ∧ form.whole.Leads route field ∧
    (Value.record model).Meets route held

namespace Record

variable {form : Schema} {model : Record} {path : Path} {field next : Field}

theorem Admits.member {schema : Schema} {record : Record} {name : String}
    (admits : Admits form model path field (.record record))
    (shape : field.shape = .composite schema) (distinct : schema.isDistinct = true)
    (declared : (name, next) ∈ schema.fields)
    (editable : next.readOnly = false) :
    Admits form model (path.child name) next
      ((Members.get? record name).getD next.blankEntry) := by
  obtain ⟨route, rfl, leads, meets⟩ := admits
  have found : schema.field? name = some next :=
    Members.get?_of_mem (schema.isDistinct_iff.mp distinct).1 declared
  refine ⟨route ++ [(.field name, next)], by simp [Path.child], ?_, ?_⟩
  · exact leads.snoc (.member shape found editable)
  · exact meets.snoc (.member record name next)

theorem Admits.entry {entries : List Value} {position : Nat} {entry : Value} {dynamic : Bool}
    (admits : Admits form model path field (.list entries))
    (shape : field.shape = .list next dynamic) (editable : next.readOnly = false)
    (there : entries[position]? = some entry) :
    Admits form model (path.entry position) next entry := by
  obtain ⟨route, rfl, leads, meets⟩ := admits
  refine ⟨route ++ [(.index position, next)], by simp [Path.entry], ?_, ?_⟩
  · exact leads.snoc (.entry shape editable)
  · exact meets.snoc (.entry next there)

end Record

namespace Inspected

variable {form : Schema} {model : Record} {path : Path} {place : Place}

theorem isAmendable (amendable : form.isAmendable = true)
    (inspected : Inspected form model path place) : place.isAmendable = true := by
  induction inspected with
  | form => exact amendable
  | part within declared editable shape held filled ih =>
      exact Field.isAmendable_below (((Schema.isAmendable_iff _).mp ih).2 _ declared) shape
  | listed within declared editable shape held there ih =>
      exact (Field.isAmendable_item (((Schema.isAmendable_iff _).mp ih).2 _ declared) shape).2
  | nested within shape there ih => exact (Field.isAmendable_item ih shape).2
  | opened within shape ih => exact Field.isAmendable_below ih shape

/-- An edit gets to all that is looked at. -/
theorem admits (distinct : form.isDistinct = true) (amendable : form.isAmendable = true)
    (inspected : Inspected form model path place) :
    ∃ field, place.IsOf field ∧ Record.Admits form model path field place.value := by
  induction inspected with
  | form => exact ⟨form.whole, rfl, [], rfl, .here _, .here _⟩
  | part within declared editable shape held filled ih =>
      obtain ⟨field, isOf, admits⟩ := ih
      have member := admits.member isOf (within.isDistinct distinct) declared editable
      rw [held] at member
      exact ⟨_, shape, member⟩
  | listed within declared editable shape held there ih =>
      obtain ⟨field, isOf, admits⟩ := ih
      have member := admits.member isOf (within.isDistinct distinct) declared editable
      rw [held] at member
      have fields := ((Schema.isAmendable_iff _).mp (within.isAmendable amendable)).2
      have free := (Field.isAmendable_item (fields _ declared) shape).1
      exact ⟨_, rfl, member.entry shape free there⟩
  | nested within shape there ih =>
      obtain ⟨_, rfl, admits⟩ := ih
      have free := (Field.isAmendable_item (within.isAmendable amendable) shape).1
      exact ⟨_, rfl, admits.entry shape free there⟩
  | opened within shape ih =>
      obtain ⟨_, rfl, admits⟩ := ih
      exact ⟨_, shape, admits⟩

end Inspected

theorem Schema.mem_of_hasNumber {fields : List (String × Field)} {name : String}
    (number : hasNumber fields name = true) :
    ∃ field, (name, field) ∈ fields ∧ field.readOnly = false := by
  obtain ⟨field, found, editable⟩ := (Option.any_eq_true _ _).mp number
  rw [Bool.and_eq_true, Bool.not_eq_true'] at editable
  exact ⟨field, Members.mem_of_get? found, editable.1⟩

/-- An edit gets to the place of every violation that is due. -/
theorem Due.admits {form : Schema} {model : Record} {violation : Violation}
    (distinct : form.isDistinct = true) (amendable : form.isAmendable = true)
    (due : Due form model violation) :
    ∃ field held, violation.path ≠ [] ∧ Record.Admits form model violation.path field held := by
  have named {path : Path} {schema : Schema} {record : Record} {name : String} {field : Field}
      (within : Inspected form model path (.record schema record))
      (declared : (name, field) ∈ schema.fields) (editable : field.readOnly = false) :
      ∃ field held, path.child name ≠ [] ∧
        Record.Admits form model (path.child name) field held := by
    obtain ⟨_, isOf, admits⟩ := within.admits distinct amendable
    exact ⟨field, _, by simp [Path.child],
      admits.member isOf (within.isDistinct distinct) declared editable⟩
  cases due with
  | required within declared editable => exact named within declared editable
  | held within declared editable => exact named within declared editable
  | @entry path _ _ _ within =>
      obtain ⟨field, -, admits⟩ := within.admits distinct amendable
      have some : path ≠ [] := by
        cases within with
        | listed => simp [Path.entry]
        | nested => simp [Path.entry]
      exact ⟨field, _, some, admits⟩
  | order within asked =>
      have rules := ((Schema.isAmendable_iff _).mp (within.isAmendable amendable)).1
      obtain ⟨field, declared, editable⟩ := Schema.mem_of_hasNumber (rules _ asked).1
      exact named within declared editable

namespace Record

/-- The schemas of the resources let every violation be amended, and so does any schema in which the
entries of lists can be edited and order rules speak of numbers that can: the path of a violation
leads through the schema to an editable field, and if that is a scalar, any text can be set
there. -/
theorem violation_amendable :
    (∀ resource : Resource,
      resource.schema.isDistinct = true ∧ resource.schema.isAmendable = true) ∧
    ∀ (schema : Schema) (model : Record), schema.isDistinct = true → schema.isAmendable = true →
      ∀ violation ∈ model.violations schema,
        ∃ route leaf, schema.route violation.path = .ok route ∧ route.leaf? = some leaf ∧
          ∀ rule, leaf.shape = .scalar rule → ∀ raw,
            ∃ next, setScalar schema model violation.path raw = .ok next ∧
              next.at? violation.path = some (rule.read raw) := by
  refine ⟨fun resource => by cases resource <;> decide, ?_⟩
  rintro schema model distinct amendable ⟨path, cause⟩ reported
  obtain ⟨leaf, held, some, route, rfl, leads, meets⟩ :=
    (mem_violations_iff.mp reported).admits distinct amendable
  have steps : route ≠ [] := by simpa using some
  obtain ⟨routed, last⟩ := Schema.route_of_leads leads steps
  refine ⟨route, leaf, routed, last, fun rule shape raw => ?_⟩
  obtain ⟨next, set⟩ := (setScalar_isOk_iff leads steps shape).mpr ⟨held, meets⟩
  refine ⟨next, set, ?_⟩
  rw [at?_of_ne_nil next some]
  exact at?_of_setScalar routed last shape set

/-- The ports of a filter that are the wrong way round can be put right at the lower one. -/
theorem ports_amendable :
    ∃ route leaf, Schema.trafficPolicy.route (portsFilterPath.child "begin_port") = .ok route ∧
      route.leaf? = some leaf ∧ leaf.scalar?.isSome = true ∧
      ∃ next, setScalar .trafficPolicy portsPolicy (portsFilterPath.child "begin_port") "70" =
          .ok next ∧
        next.at? (portsFilterPath.child "begin_port") = some (.int 70) := by
  have reported : ⟨portsFilterPath.child "begin_port", .above "Begin Port" "End Port"⟩ ∈
      portsPolicy.violations .trafficPolicy := List.mem_of_getElem? (i := 1) rfl
  obtain ⟨route, leaf, routed, last, amends⟩ := violation_amendable.2 .trafficPolicy portsPolicy
    (by decide) (by decide) _ reported
  have found : leaf = .port "Begin Port" := by
    cases routed
    cases last
    rfl
  subst found
  exact ⟨route, _, routed, last, rfl, amends _ rfl "70"⟩

end Record

end ResourceEditor
