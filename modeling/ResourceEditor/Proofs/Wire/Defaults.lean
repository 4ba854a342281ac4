import ResourceEditor.Proofs.Validation.Locality
import ResourceEditor.Proofs.Validation.Pruning
import ResourceEditor.Proofs.Wire.Conversion
import ResourceEditor.Proofs.Wire.WeakSpot
/-
This file shows what is wrong on the wire with a form that is valid: what it leaves open at the weak
spots of its resource, and nothing else.
-/

namespace ResourceEditor

/-- Where zero stands for a missing number, the wire has the number or zero, and it is never
negative. -/
theorem WireField.written?_of_isZero {place : WireField} (zero : place.isZero = true)
    {members : Record} (fits : ∀ value, Members.get? members place.name = some value →
      ∃ other, place.layout.fit value = .ok other) :
    (∃ number : Int64, Members.get? members place.name = some (.int number) ∧ ¬number < 0 ∧
        place.written? members = some (.int number)) ∨
      Members.get? members place.name = none ∧ place.written? members = some (.int 0) := by
  obtain ⟨name, presence, layout⟩ := place
  match presence, layout, zero with
  | .default (.number (.int value)), .unsigned bits, zero =>
      obtain ⟨own, other, there, fitted, written⟩ | ⟨absent, written⟩ :=
        WireField.written?_cases fits
      · rw [Layout.fit] at fitted
        obtain ⟨rfl, number, rfl, positive⟩ := Layout.fitUnsigned_ok fitted
        refine .inl ⟨number, there, ?_, written⟩
        rw [Int64.lt_iff_toInt_lt]
        exact Int.not_lt.mpr positive
      · rw [WireField.isZero, beq_iff_eq] at zero
        subst zero
        exact .inr ⟨absent, written⟩

/-- An order that holds in what is left of a record is broken on the wire just when the first number
is above zero and the second one is missing. -/
theorem OrderRule.isBroken_written {rule : OrderRule} {layout : RecordLayout} {members : Record}
    (unique : layout.names.Nodup) {lower upper : WireField}
    (low : layout.field? rule.lower = some lower) (high : layout.field? rule.upper = some upper)
    (first : lower.isZero = true) (second : upper.isZero = true)
    (fits : ∀ place ∈ layout.fields, ∀ value, Members.get? members place.name = some value →
      ∃ other, place.layout.fit value = .ok other)
    (holds : rule.isBroken members = false) :
    rule.isBroken (layout.written members) = true ↔
      ∃ number : Int64, Members.get? members rule.lower = some (.int number) ∧ 0 < number ∧
        Members.get? members rule.upper = none := by
  obtain ⟨lowKnown, lowNamed⟩ := RecordLayout.mem_of_field? low
  obtain ⟨highKnown, highNamed⟩ := RecordLayout.mem_of_field? high
  rw [isBroken] at holds ⊢
  rw [← lowNamed, ← highNamed] at holds ⊢
  rw [RecordLayout.get?_written unique lowKnown, RecordLayout.get?_written unique highKnown]
  obtain ⟨bottom, there, _, written⟩ | ⟨absent, written⟩ :=
    WireField.written?_of_isZero first (fits lower lowKnown)
  · obtain ⟨top, also, _, upperWritten⟩ | ⟨none, upperWritten⟩ :=
      WireField.written?_of_isZero second (fits upper highKnown)
    · rw [there, also] at holds
      rw [written, upperWritten, holds, also]
      simp
    · rw [written, upperWritten, there, none]
      simp [Value.int, Value.integer?, Number.int?]
  · obtain ⟨top, also, positive, upperWritten⟩ | ⟨none, upperWritten⟩ :=
      WireField.written?_of_isZero second (fits upper highKnown)
    · rw [written, upperWritten, absent]
      simp [Value.int, Value.integer?, Number.int?, positive]
    · rw [written, upperWritten, absent]
      simp [Value.int, Value.integer?, Number.int?]

section Blank

variable {schema : Schema} {inspected : Bool} {path : Path} {record : Record}

theorem OrderRule.isBroken_of_isEmpty (blank : (Value.record record).isEmpty = true)
    (rule : OrderRule) : rule.isBroken record = false := by
  apply OrderRule.isBroken_of_none
  cases held : Members.get? record rule.lower with
  | none => rfl
  | some value => exact Value.integer?_of_isEmpty (Record.isEmpty_of_get? blank held)

/-- In a record that passes no order is broken. -/
theorem Schema.Passes.isBroken_eq_false (passes : schema.Passes inspected path record)
    {rule : OrderRule} (asked : rule ∈ schema.orders) : rule.isBroken record = false := by
  obtain valid | ⟨_, blank⟩ := passes
  · rw [Bool.eq_false_iff]
    intro broken
    have reported : rule.violation schema path ∈ schema.violations path record := by
      rw [Schema.violations_eq]
      exact List.mem_append_right _ (Schema.mem_orderViolations.mpr ⟨rule, asked, broken, rfl⟩)
    rw [valid] at reported
    cases reported
  · exact rule.isBroken_of_isEmpty blank

/-- Nothing is wrong with a blank record of which nothing is required. -/
theorem Schema.violations_blank (lenient : schema.required = [])
    (blank : (Value.record record).isEmpty = true)
    (markless : (Value.record record).isMarkless = true) : schema.violations path record = [] := by
  rw [Value.isMarkless_record] at markless
  rw [List.eq_nil_iff_forall_not_mem]
  intro violation reported
  rw [Schema.violations_eq] at reported
  obtain here | order := List.mem_append.mp reported
  · obtain ⟨name, field, _, reported⟩ := Schema.mem_fieldViolations.mp here
    obtain ⟨_, ⟨asked, _⟩ | ⟨value, held, filled | ⟨mark, _⟩, _⟩⟩ := Field.mem_violations reported
    · rw [lenient] at asked
      cases asked
    · rw [Record.isEmpty_of_get? blank held] at filled
      cases filled
    · rw [Value.isNaN_of_isMarkless (markless _ (Members.mem_of_get? held))] at mark
      cases mark
  · obtain ⟨rule, _, broken, _⟩ := Schema.mem_orderViolations.mp order
    rw [rule.isBroken_of_isEmpty blank] at broken
    cases broken

end Blank

/-- What is wrong on the wire with a record that passes is what it leaves open at the weak spots of
its schema. -/
def Schema.ReportsSpots (schema : Schema) : Prop :=
  ∀ inspected layout path record wire, schema.Meets inspected layout →
    schema.isLenient inspected layout = true → Record.isDistinct record = true →
    schema.Passes inspected path record → layout.fit (Value.pruneMembers record) = .ok wire →
    ∀ violation, violation ∈ schema.violations path wire ↔
      ∃ spot ∈ schema.weakSpots layout,
        spot.Reports path (.record (Value.pruneMembers record)) violation

/-- What is wrong on the wire with a value for a field is what it leaves open at the weak spots of
the field: with a member that is blank only where it is not required, and with a list entry. -/
structure Field.ReportsSpots (field : Field) : Prop where
  member : ∀ asked layout path (value kept wire : Value), field.readOnly = false →
    field.Meets layout → field.isLenient asked layout = true → value.isDistinct = true →
    value.prune = some kept →
    (value.isEmpty = true ∨ field.shape.violations field.title path value = []) →
    (asked = true → value.isEmpty = false) → layout.fit kept = .ok wire →
    ∀ violation, violation ∈ field.violations asked path (some wire) ↔
      ∃ spot ∈ field.weakSpots layout, spot.Reports path kept violation
  entry : ∀ layout path (value wire : Value), field.EntryMeets layout →
    field.entryLenient layout = true → value.isDistinct = true →
    field.entryViolations path value = [] → layout.fit value.pruneEntry = .ok wire →
    ∀ violation, violation ∈ field.entryViolations path wire ↔
      ∃ spot ∈ field.weakSpots layout, spot.Reports path value.pruneEntry violation

/-- What is left of a value and fits the layout of a scalar is the value itself. -/
theorem ScalarRule.eq_of_fit_pruneEntry {rule : ScalarRule} {layout : Layout} {value wire : Value}
    (mirrors : rule.mirrors layout = true) (fits : layout.fit value.pruneEntry = .ok wire) :
    value.isScalar = true ∧ wire = value := by
  have conforms : value.Conforms (fun _ _ => True) ⟨"", false, .scalar rule⟩ :=
    ScalarRule.conforms_of_takes rfl (ScalarRule.takes_of_fit mirrors fits)
  have scalar := conforms.isScalar rfl
  rw [Value.pruneEntry_of_isScalar scalar] at fits
  exact ⟨scalar, ScalarRule.eq_of_fit mirrors scalar fits⟩

theorem Field.reportsSpots_scalar (title : String) (readOnly : Bool) (rule : ScalarRule) :
    Field.ReportsSpots ⟨title, readOnly, .scalar rule⟩ where
  member := by
    intro asked layout path value kept wire editable meets _ _ stays passes _ fits violation
    obtain ⟨rfl, _⟩ := Value.eq_of_prune stays
    obtain ⟨scalar, rfl⟩ := ScalarRule.eq_of_fit_pruneEntry meets.mirrors fits
    have filled := Value.isEmpty_of_prune scalar stays
    rw [filled] at passes
    rw [Field.violations_filled editable (.inl filled), passes.resolve_left Bool.false_ne_true]
    simp [Field.weakSpots, Shape.weakSpots]
  entry := by
    intro layout path value wire meets _ _ valid fits violation
    obtain ⟨_, rfl⟩ := ScalarRule.eq_of_fit_pruneEntry meets.mirrors fits
    rw [valid]
    simp [Field.weakSpots, Shape.weakSpots]

/-- A record that need not be there is reported on the wire as it is. -/
theorem Field.violations_record {field : Field} {below : Schema} {path : Path} {record : Record}
    (editable : field.readOnly = false) (shape : field.shape = .composite below)
    (lenient : below.required = []) (markless : (Value.record record).isMarkless = true) :
    field.violations false path (some (.record record)) = below.violations path record := by
  cases filled : (Value.record record).isEmpty with
  | true =>
      rw [Schema.violations_blank lenient filled markless]
      refine Field.violations_unfilled editable fun value there => ?_
      cases there
      exact ⟨filled, rfl⟩
  | false =>
      rw [Field.violations_filled editable (.inl filled), shape]
      exact Shape.violations_record ((Value.allEmpty_eq_false_iff record).mp filled)

theorem Field.reportsSpots_composite (title : String) (readOnly : Bool) {below : Schema}
    (inside : below.ReportsSpots) : Field.ReportsSpots ⟨title, readOnly, .composite below⟩ where
  member := by
    intro asked layout path value kept wire editable meets lenient maps stays passes _ fits
      violation
    obtain ⟨rfl, _⟩ := Value.eq_of_prune stays
    have markless := Layout.isMarkless_of_fit meets.sound fits
    obtain ⟨layout, rfl, within⟩ := meets.of_composite
    rw [Field.isLenient, Shape.isLenient, Bool.and_eq_true, Bool.not_eq_true'] at lenient
    obtain ⟨rfl, lenient⟩ := lenient
    have spares := (Schema.isLenient_iff.mp lenient).1 rfl
    obtain ⟨members, rfl⟩ | rfl := Value.record_or_nil stays passes
    · rw [Value.pruneEntry_record] at fits ⊢
      obtain ⟨others, fitted, rfl⟩ := Layout.fit_members_ok_iff.mp fits
      rw [Field.violations_record editable rfl spares markless]
      exact inside false layout path members others within lenient maps (.of_member passes) fitted
        violation
    · -- a list without entries is read as a record without members
      obtain ⟨others, fitted, rfl⟩ := Layout.fit_members_ok_iff.mp (Layout.fit_nil_ok_iff.mp fits)
      rw [Field.violations_record editable rfl spares markless]
      simp only [Value.pruneEntry_list, List.map_nil, WeakSpot.reports_nil_iff]
      exact inside false layout path [] others within lenient rfl (.inr ⟨rfl, rfl⟩) fitted
        violation
  entry := by
    intro layout path value wire meets lenient maps valid fits violation
    obtain ⟨layout, rfl, within⟩ := meets.of_composite
    obtain ⟨members, rfl⟩ := Value.record_of_entry valid
    rw [Value.pruneEntry_record] at fits ⊢
    obtain ⟨others, fitted, rfl⟩ := Layout.fit_members_ok_iff.mp fits
    exact inside true layout path members others within lenient maps (.inl valid) fitted violation

/-- What is wrong on the wire with the entries of a list is what they leave open. -/
theorem Field.entries_reportSpots {item : Field} (inside : item.ReportsSpots) {layout : Layout}
    {path : Path} {entries others : List Value} (meets : item.EntryMeets layout)
    (lenient : item.entryLenient layout = true) (maps : (Value.list entries).isDistinct = true)
    (valid : item.entriesViolations path entries = [])
    (fits : List.Forall₂ (fun entry other => layout.fit entry = .ok other)
      (entries.map Value.pruneEntry) others) (violation : Violation) :
    violation ∈ item.entriesViolations path others ↔
      ∃ spot ∈ (item.weakSpots layout).map WeakSpot.entry,
        spot.Reports path (.list (entries.map Value.pruneEntry)) violation := by
  have below {position : Nat} {entry other : Value} (there : entries[position]? = some entry)
      (fitted : layout.fit entry.pruneEntry = .ok other) :=
    inside.entry layout (path.entry position) entry other meets lenient
      ((Value.isDistinct_list entries).mp maps entry (List.mem_of_getElem? there))
      (entryViolations_eq_nil valid there) fitted violation
  have paired (position : Nat) := Layout.getElem?_of_fit fits position
  simp only [List.getElem?_map] at paired
  rw [mem_entriesViolations]
  constructor
  · rintro ⟨position, other, found, reported⟩
    obtain ⟨_, absent⟩ | ⟨left, again, there, also, fitted⟩ := paired position
    · rw [found] at absent
      cases absent
    · rw [found, Option.some.injEq] at also
      subst also
      obtain ⟨entry, held, rfl⟩ := Option.map_eq_some_iff.mp there
      obtain ⟨spot, member, reports⟩ := (below held fitted).mp reported
      refine ⟨.entry spot, List.mem_map_of_mem member, WeakSpot.reports_entry_iff.mpr ?_⟩
      exact ⟨position, entry.pruneEntry, List.getElem?_map.trans there, reports⟩
  · rintro ⟨_, inList, reported⟩
    obtain ⟨spot, member, rfl⟩ := List.mem_map.mp inList
    obtain ⟨position, left, there, reports⟩ := WeakSpot.reports_entry_iff.mp reported
    rw [Value.step?_list, List.getElem?_map] at there
    obtain ⟨absent, _⟩ | ⟨again, other, also, found, fitted⟩ := paired position
    · rw [there] at absent
      cases absent
    · rw [there, Option.some.injEq] at also
      subst also
      obtain ⟨entry, held, rfl⟩ := Option.map_eq_some_iff.mp there
      exact ⟨position, other, found, (below held fitted).mpr ⟨spot, member, reports⟩⟩

/-- A list is reported entry by entry, unless it is required and has none. -/
theorem Field.violations_list {field item : Field} {dynamic asked : Bool} {path : Path}
    {entries : List Value} (editable : field.readOnly = false)
    (shape : field.shape = .list item dynamic)
    (filled : asked = true → (Value.list entries).isEmpty = false) :
    field.violations asked path (some (.list entries)) = item.entriesViolations path entries := by
  cases entries with
  | nil =>
      cases asked with
      | true => cases filled rfl
      | false =>
          refine Field.violations_unfilled editable fun value there => ?_
          cases there
          exact ⟨rfl, rfl⟩
  | cons first rest =>
      rw [Field.violations_filled editable (.inl rfl), shape]
      rfl

theorem Field.reportsSpots_list (title : String) (readOnly : Bool) {item : Field} (dynamic : Bool)
    (inside : item.ReportsSpots) : Field.ReportsSpots ⟨title, readOnly, .list item dynamic⟩ where
  member := by
    intro asked layout path value kept wire editable meets lenient maps stays passes filled fits
      violation
    obtain ⟨rfl, _⟩ := Value.eq_of_prune stays
    obtain ⟨layout, rfl, within⟩ := meets.of_list
    obtain ⟨entries, rfl⟩ | ⟨members, rfl⟩ := Value.list_or_record stays passes
    · rw [Value.pruneEntry_list] at fits ⊢
      obtain ⟨others, each, rfl⟩ := Layout.fit_entries_ok_iff.mp fits
      have some (required : asked = true) : (Value.list others).isEmpty = false := by
        cases entries with
        | nil => cases filled required
        | cons first rest =>
            cases each
            rfl
      rw [Field.violations_list editable rfl some]
      exact entries_reportSpots inside within lenient maps (entriesViolations_eq_nil passes) each
        violation
    · rw [Value.pruneEntry_record] at fits
      obtain ⟨_, _, never, _⟩ := Layout.fit_list_ok_iff.mp fits
      cases never
  entry := by
    intro layout path value wire meets lenient maps valid fits violation
    obtain ⟨layout, rfl, within⟩ := meets.of_list
    obtain ⟨entries, rfl⟩ := Value.list_of_entry valid
    rw [Value.pruneEntry_list] at fits ⊢
    obtain ⟨others, each, rfl⟩ := Layout.fit_entries_ok_iff.mp fits
    exact entries_reportSpots inside within lenient maps valid each violation

/-- What stands for a missing member is reported for what is wrong with it by itself. -/
theorem Field.mem_violations_default {field : Field} {layout : Layout} {presence : Presence}
    {value : Value} {path : Path} {violation : Violation} (editable : field.readOnly = false)
    (mirrors : field.shape.mirrors layout = true) (suits : presence.suits layout = true)
    (own : presence.default? = some value) :
    violation ∈ field.violations false path (some value) ↔
      ∃ cause ∈ field.standInCauses value, ⟨path, cause⟩ = violation := by
  have blank (empty : value.isEmpty = true) : field.violations false path (some value) = [] := by
    refine Field.violations_unfilled editable fun other there => ?_
    cases there
    exact ⟨empty, Value.isNaN_of_isMarkless (Presence.fit_default suits own).2.1⟩
  rw [standInCauses]
  cases shape : field.shape with
  | scalar rule =>
      cases filled : value.isEmpty with
      | true => simp [blank filled]
      | false =>
          rw [Field.violations_filled editable (.inl filled), shape, Shape.violations]
          obtain ⟨place, cause⟩ := violation
          simp only [ScalarRule.mem_violations, Bool.false_eq_true, if_false, Violation.mk.injEq]
          constructor
          · rintro ⟨rfl, found⟩
            exact ⟨cause, found, rfl, rfl⟩
          · rintro ⟨_, found, rfl, rfl⟩
            exact ⟨rfl, found⟩
  | _ =>
      rw [shape] at mirrors
      simp [blank (Presence.isEmpty_default suits own mirrors (by simp))]

section Record

variable {schema : Schema} {inspected : Bool} {layout : RecordLayout} {path : Path}
  {record : Record} {violation : Violation}

/-- Where a record passes, what is required in it is filled in. -/
theorem Schema.Passes.filled_of_required (passes : schema.Passes inspected path record)
    (lenient : schema.isLenient inspected layout = true) {name : String} {field : Field}
    (declared : schema.field? name = some field) (editable : field.readOnly = false)
    (asked : schema.required.contains name = true) :
    ∃ value, Members.get? record name = some value ∧ value.isEmpty = false := by
  cases inspected with
  | true => exact passes.required declared editable asked
  | false =>
      rw [(Schema.isLenient_iff.mp lenient).1 rfl] at asked
      cases asked

/-- What is wrong on the wire with an order is what a record leaves open of it. -/
theorem Schema.orders_reportSpots (meets : schema.Meets inspected layout)
    (lenient : schema.isLenient inspected layout = true)
    (names : (Members.names record).Nodup) (passes : schema.Passes inspected path record)
    (fits : ∀ place ∈ layout.fields, ∀ kept,
      Members.get? (Value.pruneMembers record) place.name = some kept →
        ∃ other, place.layout.fit kept = .ok other) :
    violation ∈ schema.orderViolations path (layout.written (Value.pruneMembers record)) ↔
      ∃ rule ∈ schema.orders, (rule.weakSpot schema.fields).Reports path
        (.record (Value.pruneMembers record)) violation := by
  rw [mem_orderViolations]
  refine exists_congr fun rule => and_congr_right fun asked => ?_
  obtain ⟨lower, upper, low, high, first, second⟩ :=
    (Schema.isLenient_iff.mp lenient).2.1 rule asked
  have holds : rule.isBroken (Value.pruneMembers record) = false := by
    rw [rule.isBroken_prune names]
    exact passes.isBroken_eq_false asked
  rw [OrderRule.isBroken_written meets.unique low high first second fits holds]
  rw [OrderRule.weakSpot, WeakSpot.reports_unpaired_iff]
  rfl

/-- What is wrong on the wire with a member is what the record leaves open of it. -/
theorem Schema.member_reportsSpots (violation : Violation) (meets : schema.Meets inspected layout)
    (lenient : schema.isLenient inspected layout = true) (maps : Record.isDistinct record = true)
    (passes : schema.Passes inspected path record) {field : Field} {place : WireField}
    (inside : field.ReportsSpots) (declared : schema.field? place.name = some field)
    (editable : field.readOnly = false) (known : place ∈ layout.fields)
    (same : field.Meets place.layout)
    (fits : ∀ kept, Members.get? (Value.pruneMembers record) place.name = some kept →
      ∃ other, place.layout.fit kept = .ok other) :
    violation ∈ field.violations (schema.required.contains place.name) (path.child place.name)
        (place.written? (Value.pruneMembers record)) ↔
      ∃ spot, (spot ∈ place.weakSpots field ∨
          ∃ below ∈ field.weakSpots place.layout, .member place.name below = spot) ∧
        spot.Reports path (.record (Value.pruneMembers record)) violation := by
  obtain ⟨names, each⟩ := (Value.isDistinct_record record).mp maps
  have left := Value.get?_pruneMembers names place.name
  obtain ⟨kept, wire, there, fitted, written⟩ | ⟨absent, written⟩ :=
    WireField.written?_cases fits
  · rw [there, eq_comm, Option.bind_eq_some_iff] at left
    obtain ⟨value, held, stays⟩ := left
    have filled (asked : schema.required.contains place.name = true) : value.isEmpty = false := by
      obtain ⟨other, also, filled⟩ := passes.filled_of_required lenient declared editable asked
      rw [held, Option.some.injEq] at also
      exact also ▸ filled
    have lenient := (isLenient_iff.mp lenient).2.2 _ (Members.mem_of_get? declared) place
      (RecordLayout.field?_of_mem meets.unique known)
    rw [written, WireField.spots_report_of_some there]
    exact inside.member _ place.layout (path.child place.name) value kept wire editable same lenient
      (each _ (Members.mem_of_get? held)) stays (passes.held declared editable held) filled fitted
      violation
  · -- a required member would be filled in, and so it would be left
    have optional : schema.required.contains place.name = false := by
      rw [Bool.eq_false_iff]
      intro asked
      obtain ⟨value, held, filled⟩ := passes.filled_of_required lenient declared editable asked
      rw [absent, held, Option.bind_some, Value.prune_of_isEmpty filled] at left
      cases left
    rw [written, optional, WireField.spots_report_of_none absent]
    cases own : place.presence.default? with
    | none =>
        rw [Field.violations_unfilled editable (fun _ never => by cases never)]
        simp
    | some value =>
        rw [Field.mem_violations_default editable same.mirrors (meets.isSound known).1 own]
        simp

end Record

theorem Schema.reportsSpots_of_fields {schema : Schema}
    (fields : ∀ pair ∈ schema.fields, pair.2.ReportsSpots) : schema.ReportsSpots := by
  intro inspected layout path record wire meets lenient maps passes fits violation
  have names := ((Value.isDistinct_record record).mp maps).1
  obtain ⟨each, _, rfl⟩ := (RecordLayout.fit_pruneMembers_iff meets.unique names).mp fits
  rw [violations_eq, List.mem_append, mem_fieldViolations,
    orders_reportSpots meets lenient names passes each]
  have member {place : WireField} {field : Field} (listed : (place.name, field) ∈ schema.fields)
      (editable : field.readOnly = false) (known : place ∈ layout.fields)
      (same : field.Meets place.layout) :=
    member_reportsSpots violation meets lenient maps passes (fields _ listed)
      (meets.field?_of_mem listed) editable known same (each place known)
  simp only [mem_weakSpots]
  constructor
  · rintro (⟨name, field, listed, reported⟩ | ⟨rule, asked, reports⟩)
    · cases editable : field.readOnly with
      | true =>
          rw [Field.violations_readOnly editable] at reported
          cases reported
      | false =>
          obtain ⟨place, known, rfl, found, _, same⟩ := meets.place (meets.field?_of_mem listed)
          rw [RecordLayout.get?_written meets.unique known,
            member listed editable known (same editable)] at reported
          obtain ⟨spot, spots, reports⟩ := reported
          exact ⟨spot, .inl ⟨place.name, field, place, listed, found, editable, spots⟩, reports⟩
    · exact ⟨_, .inr ⟨rule, asked, rfl⟩, reports⟩
  · rintro ⟨spot, ⟨name, field, place, listed, found, editable, spots⟩ | ⟨rule, asked, rfl⟩,
      reports⟩
    · obtain ⟨known, rfl⟩ := RecordLayout.mem_of_field? found
      obtain ⟨_, same⟩ := meets.of_known known (meets.field?_of_mem listed)
      refine .inl ⟨place.name, field, listed, ?_⟩
      rw [RecordLayout.get?_written meets.unique known,
        member listed editable known (same editable)]
      exact ⟨spot, spots, reports⟩
    · exact .inr ⟨rule, asked, reports⟩

theorem Schema.reportsSpots (schema : Schema) : schema.ReportsSpots :=
  (Schema.descent Schema.ReportsSpots Field.ReportsSpots (fun _ => Schema.reportsSpots_of_fields)
    Field.reportsSpots_scalar
    (fun title readOnly _ => Field.reportsSpots_composite title readOnly)
    (fun title readOnly _ dynamic => Field.reportsSpots_list title readOnly dynamic)).1 schema

end ResourceEditor
