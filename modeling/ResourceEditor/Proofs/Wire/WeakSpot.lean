import ResourceEditor.Proofs.Wire.Creation
import ResourceEditor.Proofs.Wire.Mirror
/-
This file finds out from a schema and a wire layout alone where a form can be valid and yet not be
valid on the wire: where what stands for a missing member breaks a rule.
-/

namespace ResourceEditor

/-- A place where a form that is valid need not be valid on the wire, seen from a value above. -/
inductive WeakSpot where
  | unset (name : String) (cause : Cause)
  | unpaired (lower upper : String) (cause : Cause)
  | member (name : String) (below : WeakSpot)
  | entry (below : WeakSpot)

/-- What is wrong on the wire because of what a value leaves open at a weak spot: a member that what
stands for it breaks a rule, or the upper one of an ordered pair, which then is zero. -/
inductive WeakSpot.Reports : WeakSpot → Path → Value → Violation → Prop where
  | unset {name : String} {cause : Cause} {path : Path} {value : Value}
      (absent : value.step? (.field name) = none) :
      Reports (.unset name cause) path value ⟨path.child name, cause⟩
  | unpaired {lower upper : String} {cause : Cause} {path : Path} {value : Value} {number : Int64}
      (set : value.step? (.field lower) = some (.int number)) (positive : 0 < number)
      (absent : value.step? (.field upper) = none) :
      Reports (.unpaired lower upper cause) path value ⟨path.child lower, cause⟩
  | member {name : String} {spot : WeakSpot} {path : Path} {value below : Value}
      {violation : Violation} (there : value.step? (.field name) = some below)
      (reports : Reports spot (path.child name) below violation) :
      Reports (.member name spot) path value violation
  | entry {spot : WeakSpot} {path : Path} {value below : Value} {position : Nat}
      {violation : Violation} (there : value.step? (.index position) = some below)
      (reports : Reports spot (path.entry position) below violation) :
      Reports (.entry spot) path value violation

/-- What is wrong with a value that stands for a missing member. -/
def Field.standInCauses (field : Field) (value : Value) : List Cause :=
  match field.shape with
  | .scalar rule => if value.isEmpty then [] else rule.causes field.title value
  | _ => []

def WireField.weakSpots (place : WireField) (field : Field) : List WeakSpot :=
  match place.presence.default? with
  | some value => (field.standInCauses value).map (.unset place.name)
  | none => []

/-- The weak spot of two fields in order, where zero stands for a missing member. -/
def OrderRule.weakSpot (rule : OrderRule) (fields : List (String × Field)) : WeakSpot :=
  .unpaired rule.lower rule.upper (.above (titleOf fields rule.lower) (titleOf fields rule.upper))

mutual

/-- The weak spots of a schema on a layout. -/
def Schema.weakSpots : Schema → RecordLayout → List WeakSpot
  | ⟨_, fields, _, orders⟩, layout =>
      Schema.fieldsWeakSpots layout fields ++ orders.map (·.weakSpot fields)

def Schema.fieldsWeakSpots (layout : RecordLayout) : List (String × Field) → List WeakSpot
  | [] => []
  | (name, field) :: rest =>
      (match layout.field? name with
      | some place =>
          if field.readOnly then []
          else place.weakSpots field ++ (field.weakSpots place.layout).map (.member name)
      | none => []) ++ Schema.fieldsWeakSpots layout rest

def Field.weakSpots : Field → Layout → List WeakSpot
  | ⟨_, _, shape⟩, layout => shape.weakSpots layout

def Shape.weakSpots : Shape → Layout → List WeakSpot
  | .composite schema, .record layout => schema.weakSpots layout
  | .list item _, .list inner => (item.weakSpots inner).map .entry
  | _, _ => []

end

/-- Whether zero stands for a missing number. -/
def WireField.isZero : WireField → Bool
  | ⟨_, .default (.number (.int value)), .unsigned _⟩ => value == 0
  | _ => false

mutual

/-- Whether nothing is required of a record that may be missing, no such record is required itself,
and ordered fields are numbers that are zero when they are missing. -/
def Schema.isLenient (inspected : Bool) : Schema → RecordLayout → Bool
  | ⟨_, fields, required, orders⟩, layout =>
      (inspected || required.isEmpty) &&
        orders.all (fun rule => (layout.field? rule.lower).any WireField.isZero &&
          (layout.field? rule.upper).any WireField.isZero) &&
        Schema.fieldsLenient required layout fields

def Schema.fieldsLenient (required : List String) (layout : RecordLayout) :
    List (String × Field) → Bool
  | [] => true
  | (name, field) :: rest =>
      (layout.field? name).all (fun place =>
        field.isLenient (required.contains name) place.layout) &&
        Schema.fieldsLenient required layout rest

def Field.isLenient (asked : Bool) : Field → Layout → Bool
  | ⟨_, _, shape⟩, layout => shape.isLenient asked layout

def Field.entryLenient : Field → Layout → Bool
  | ⟨_, _, shape⟩, layout => shape.entryLenient layout

def Shape.isLenient (asked : Bool) : Shape → Layout → Bool
  | .composite schema, .record layout => !asked && schema.isLenient false layout
  | .list item _, .list inner => item.entryLenient inner
  | _, _ => true

def Shape.entryLenient : Shape → Layout → Bool
  | .composite schema, .record layout => schema.isLenient true layout
  | .list item _, .list inner => item.entryLenient inner
  | _, _ => true

end

theorem WireField.mem_weakSpots {place : WireField} {field : Field} {spot : WeakSpot} :
    spot ∈ place.weakSpots field ↔ ∃ value, place.presence.default? = some value ∧
      ∃ cause ∈ field.standInCauses value, .unset place.name cause = spot := by
  rw [weakSpots]
  cases place.presence.default? <;> simp

theorem Resource.isLenient (resource : Resource) :
    resource.schema.isLenient true resource.layout = true := by
  cases resource <;> decide

section Schema

variable {schema : Schema} {layout : RecordLayout}

theorem Schema.mem_fieldsWeakSpots {fields : List (String × Field)} {spot : WeakSpot} :
    spot ∈ fieldsWeakSpots layout fields ↔ ∃ name field place, (name, field) ∈ fields ∧
      layout.field? name = some place ∧ field.readOnly = false ∧
        (spot ∈ place.weakSpots field ∨
          ∃ below ∈ field.weakSpots place.layout, .member name below = spot) := by
  induction fields with
  | nil => simp [fieldsWeakSpots]
  | cons pair rest ih =>
      obtain ⟨name, field⟩ := pair
      rw [fieldsWeakSpots, List.mem_append, ih]
      constructor
      · rintro (here | ⟨other, own, place, member, others⟩)
        · cases found : layout.field? name with
          | none => simp [found] at here
          | some place =>
              cases writable : field.readOnly with
              | true => simp [found, writable] at here
              | false =>
                  refine ⟨name, field, place, List.mem_cons_self, found, writable, ?_⟩
                  simpa [found, writable] using here
        · exact ⟨other, own, place, List.mem_cons_of_mem _ member, others⟩
      · rintro ⟨other, own, place, member, found, writable, spots⟩
        obtain same | inRest := List.mem_cons.mp member
        · cases same
          left
          simpa [found, writable] using spots
        · exact .inr ⟨other, own, place, inRest, found, writable, spots⟩

theorem Schema.mem_weakSpots {spot : WeakSpot} :
    spot ∈ schema.weakSpots layout ↔
      (∃ name field place, (name, field) ∈ schema.fields ∧ layout.field? name = some place ∧
        field.readOnly = false ∧ (spot ∈ place.weakSpots field ∨
          ∃ below ∈ field.weakSpots place.layout, .member name below = spot)) ∨
      ∃ rule ∈ schema.orders, rule.weakSpot schema.fields = spot := by
  obtain ⟨title, fields, required, orders⟩ := schema
  rw [weakSpots, List.mem_append, mem_fieldsWeakSpots, List.mem_map]

theorem Schema.fieldsLenient_iff {required : List String} {fields : List (String × Field)} :
    fieldsLenient required layout fields = true ↔ ∀ pair ∈ fields, ∀ place,
      layout.field? pair.1 = some place →
        pair.2.isLenient (required.contains pair.1) place.layout = true := by
  induction fields with
  | nil => simp [fieldsLenient]
  | cons pair rest ih =>
      rw [fieldsLenient, Bool.and_eq_true, ih, List.forall_mem_cons]
      refine and_congr_left fun _ => ?_
      cases layout.field? pair.1 <;> simp

theorem Schema.isLenient_iff {inspected : Bool} :
    schema.isLenient inspected layout = true ↔
      (inspected = false → schema.required = []) ∧
      (∀ rule ∈ schema.orders, ∃ lower upper, layout.field? rule.lower = some lower ∧
        layout.field? rule.upper = some upper ∧ lower.isZero = true ∧ upper.isZero = true) ∧
      ∀ pair ∈ schema.fields, ∀ place, layout.field? pair.1 = some place →
        pair.2.isLenient (schema.required.contains pair.1) place.layout = true := by
  obtain ⟨title, fields, required, orders⟩ := schema
  rw [isLenient, Bool.and_eq_true, Bool.and_eq_true, fieldsLenient_iff, and_assoc]
  refine and_congr ?_ (and_congr_left fun _ => ?_)
  · cases inspected <;> simp
  · rw [List.all_eq_true]
    refine forall₂_congr fun rule _ => ?_
    simp only [Bool.and_eq_true, Option.any_eq_true]
    constructor
    · rintro ⟨⟨lower, low, first⟩, upper, high, second⟩
      exact ⟨lower, upper, low, high, first, second⟩
    · rintro ⟨lower, upper, low, high, first, second⟩
      exact ⟨⟨lower, low, first⟩, upper, high, second⟩

end Schema

namespace WeakSpot

variable {spot : WeakSpot} {path : Path} {value other : Value} {violation : Violation}

/-- Of a value only what lies in it counts. -/
theorem Reports.congr (same : ∀ segment, value.step? segment = other.step? segment)
    (reports : spot.Reports path value violation) : spot.Reports path other violation := by
  cases reports with
  | unset absent => exact .unset (same _ ▸ absent)
  | unpaired set positive absent => exact .unpaired (same _ ▸ set) positive (same _ ▸ absent)
  | member there reports => exact .member (same _ ▸ there) reports
  | entry there reports => exact .entry (same _ ▸ there) reports

/-- A list without entries leaves open what a record without members does. -/
theorem reports_nil_iff :
    spot.Reports path (.list []) violation ↔ spot.Reports path (.record []) violation := by
  have same (segment : Segment) :
      (Value.list []).step? segment = (Value.record []).step? segment := by
    cases segment <;> rfl
  exact ⟨fun reports => reports.congr same, fun reports => reports.congr fun segment =>
    (same segment).symm⟩

theorem reports_unset_iff {name : String} {cause : Cause} :
    (unset name cause).Reports path value violation ↔
      value.step? (.field name) = none ∧ ⟨path.child name, cause⟩ = violation := by
  constructor
  · intro reports
    cases reports with
    | unset absent => exact ⟨absent, rfl⟩
  · rintro ⟨absent, rfl⟩
    exact .unset absent

theorem reports_unpaired_iff {lower upper : String} {cause : Cause} :
    (unpaired lower upper cause).Reports path value violation ↔
      (∃ number : Int64, value.step? (.field lower) = some (.int number) ∧ 0 < number ∧
        value.step? (.field upper) = none) ∧ ⟨path.child lower, cause⟩ = violation := by
  constructor
  · intro reports
    cases reports with
    | unpaired set positive absent => exact ⟨⟨_, set, positive, absent⟩, rfl⟩
  · rintro ⟨⟨number, set, positive, absent⟩, rfl⟩
    exact .unpaired set positive absent

theorem reports_member_iff {name : String} :
    (member name spot).Reports path value violation ↔
      ∃ below, value.step? (.field name) = some below ∧
        spot.Reports (path.child name) below violation := by
  constructor
  · intro reports
    cases reports with
    | member there reports => exact ⟨_, there, reports⟩
  · rintro ⟨below, there, reports⟩
    exact .member there reports

theorem reports_entry_iff :
    (entry spot).Reports path value violation ↔
      ∃ position below, value.step? (.index position) = some below ∧
        spot.Reports (path.entry position) below violation := by
  constructor
  · intro reports
    cases reports with
    | entry there reports => exact ⟨_, _, there, reports⟩
  · rintro ⟨position, below, there, reports⟩
    exact .entry there reports

end WeakSpot

section Member

variable {place : WireField} {field : Field} {path : Path} {members : Record}
  {violation : Violation}

/-- A record that has the member leaves open what the member does. -/
theorem WireField.spots_report_of_some {value : Value}
    (there : Members.get? members place.name = some value) :
    (∃ spot, (spot ∈ place.weakSpots field ∨
        ∃ below ∈ field.weakSpots place.layout, .member place.name below = spot) ∧
      spot.Reports path (.record members) violation) ↔
      ∃ below ∈ field.weakSpots place.layout,
        below.Reports (path.child place.name) value violation := by
  constructor
  · rintro ⟨_, stands | ⟨below, spot, rfl⟩, reports⟩
    · obtain ⟨_, _, cause, _, rfl⟩ := mem_weakSpots.mp stands
      rw [WeakSpot.reports_unset_iff, Value.step?_record, there] at reports
      cases reports.1
    · obtain ⟨other, also, reports⟩ := WeakSpot.reports_member_iff.mp reports
      rw [Value.step?_record, there, Option.some.injEq] at also
      exact ⟨below, spot, also ▸ reports⟩
  · rintro ⟨below, spot, reports⟩
    exact ⟨_, .inr ⟨below, spot, rfl⟩, WeakSpot.reports_member_iff.mpr ⟨value, there, reports⟩⟩

/-- A record without the member leaves open what is wrong with what stands for it. -/
theorem WireField.spots_report_of_none (absent : Members.get? members place.name = none) :
    (∃ spot, (spot ∈ place.weakSpots field ∨
        ∃ below ∈ field.weakSpots place.layout, .member place.name below = spot) ∧
      spot.Reports path (.record members) violation) ↔
      ∃ value, place.presence.default? = some value ∧ ∃ cause ∈ field.standInCauses value,
        ⟨path.child place.name, cause⟩ = violation := by
  constructor
  · rintro ⟨_, stands | ⟨below, _, rfl⟩, reports⟩
    · obtain ⟨value, own, cause, found, rfl⟩ := mem_weakSpots.mp stands
      exact ⟨value, own, cause, found, (WeakSpot.reports_unset_iff.mp reports).2⟩
    · obtain ⟨_, there, _⟩ := WeakSpot.reports_member_iff.mp reports
      rw [Value.step?_record, absent] at there
      cases there
  · rintro ⟨value, own, cause, found, same⟩
    exact ⟨_, .inl (mem_weakSpots.mpr ⟨value, own, cause, found, rfl⟩),
      WeakSpot.reports_unset_iff.mpr ⟨absent, same⟩⟩

end Member

end ResourceEditor
