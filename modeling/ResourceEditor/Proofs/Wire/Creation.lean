import ResourceEditor.Proofs.Typing.Editing
import ResourceEditor.Proofs.Validation.Due
import ResourceEditor.Proofs.Value.Json
import ResourceEditor.Proofs.Value.Pruned
import ResourceEditor.Proofs.Wire.Agreement
/-
This file follows a new resource from its form to the controller: whatever is entered, once the form
is valid it fits the wire layout, and nothing that was entered is lost or moved on the way.
-/

namespace ResourceEditor

/-- Nothing is wrong with a record, or nothing is filled in and it need not be looked at. A blank
member of the second kind is still sent when it has an empty list in it. -/
def Schema.Passes (schema : Schema) (inspected : Bool) (path : Path) (record : Record) : Prop :=
  schema.violations path record = [] ∨ inspected = false ∧ (Value.record record).isEmpty = true

namespace Schema.Passes

variable {schema : Schema} {inspected : Bool} {path : Path} {record : Record} {name : String}
  {field : Field}

/-- A member is blank, or there is nothing wrong with it. -/
theorem held (passes : schema.Passes inspected path record)
    (declared : schema.field? name = some field) (editable : field.readOnly = false) {value : Value}
    (there : Members.get? record name = some value) :
    value.isEmpty = true ∨ field.shape.violations field.title (path.child name) value = [] := by
  cases filled : value.isEmpty with
  | true => exact .inl rfl
  | false =>
      right
      obtain valid | ⟨_, blank⟩ := passes
      · have none := field_violations_eq_nil valid (Members.mem_of_get? declared)
        rwa [there, Field.violations_filled editable (.inl filled)] at none
      · rw [Value.isEmpty_record ⟨_, Members.mem_of_get? there, filled⟩] at blank
        cases blank

/-- Where a record is looked at, a required member is filled in. -/
theorem required (passes : schema.Passes true path record)
    (declared : schema.field? name = some field) (editable : field.readOnly = false)
    (asked : schema.required.contains name = true) :
    ∃ value, Members.get? record name = some value ∧ value.isEmpty = false := by
  obtain valid | ⟨never, _⟩ := passes
  · have none := field_violations_eq_nil valid (Members.mem_of_get? declared)
    rw [asked] at none
    by_contra blank
    rw [Field.violations_required editable] at none
    · cases none
    · intro value there
      by_contra filled
      exact blank ⟨value, there, eq_false_of_ne_true filled⟩
  · cases never

/-- A member that is a record passes as one that need not be looked at. -/
theorem of_member {title : String} (passes : (Value.record record).isEmpty = true ∨
    (Shape.composite schema).violations title path (.record record) = []) :
    schema.Passes false path record := by
  cases filled : (Value.record record).isEmpty with
  | true => exact .inr ⟨rfl, filled⟩
  | false =>
      rw [filled] at passes
      have valid := passes.resolve_left Bool.false_ne_true
      rw [Shape.violations_record ((Value.allEmpty_eq_false_iff record).mp filled)] at valid
      exact .inl valid

end Schema.Passes

/-- There is nothing wrong with the entries of a list that passes as a member. -/
theorem Field.entriesViolations_eq_nil {item : Field} {dynamic : Bool} {title : String}
    {path : Path} {entries : List Value} (passes : (Value.list entries).isEmpty = true ∨
      (Shape.list item dynamic).violations title path (.list entries) = []) :
    item.entriesViolations path entries = [] := by
  obtain blank | valid := passes
  · cases entries with
    | nil => rfl
    | cons first rest => cases blank
  · exact valid

/-- What is left of each record of a schema fits each layout that the schema agrees with. -/
def Schema.FitsWire (schema : Schema) : Prop :=
  ∀ inspected layout path record, schema.agrees inspected layout = true →
    (Value.record record).Conforms Record.IsOwn schema.whole → schema.Passes inspected path record →
    ∃ wire : Record, layout.fit (Value.pruneMembers record) = .ok wire ∧
      (Value.record wire).Carries (.record record)

/-- What is left of a value for a field fits each layout that the field agrees with: as a member
when it is blank or there is nothing wrong with it, as a list entry when there is nothing wrong. -/
structure Field.FitsWire (field : Field) : Prop where
  member : ∀ layout path value kept, field.agrees layout = true →
    value.Conforms Record.IsOwn field → value.prune = some kept →
    (value.isEmpty = true ∨ field.shape.violations field.title path value = []) →
    ∃ other : Value, layout.fit kept = .ok other ∧ other.Carries value
  entry : ∀ layout path value, field.entryAgrees layout = true →
    value.Conforms Record.IsOwn field → field.entryViolations path value = [] →
    ∃ other : Value, layout.fit value.pruneEntry = .ok other ∧ other.Carries value

/-- Each member that is left of a record fits its field of the layout. -/
theorem Schema.members_fit {schema : Schema} (fields : ∀ pair ∈ schema.fields, pair.2.FitsWire)
    {inspected : Bool} {layout : RecordLayout} {path : Path} {record : Record}
    (agrees : schema.agrees inspected layout = true)
    (conforms : (Value.record record).Conforms Record.IsOwn schema.whole)
    (passes : schema.Passes inspected path record) :
    ∀ pair ∈ Value.pruneMembers record, ∃ wire other, layout.field? pair.1 = some wire ∧
      wire.fit pair.2 = .ok (some other) ∧
        ∀ value, Members.get? record pair.1 = some value → other.Carries value := by
  obtain ⟨_, same, ⟨names, own⟩, typed⟩ := conforms.of_composite rfl
  cases same
  intro ⟨name, kept⟩ member
  obtain ⟨value, there, stays⟩ := Value.mem_of_mem_pruneMembers member
  have held : Members.get? record name = some value := Members.get?_of_mem names there
  obtain ⟨field, declared, editable⟩ := own name (List.mem_map.mpr ⟨_, there, rfl⟩)
  have listed := Members.mem_of_get? declared
  obtain ⟨wire, found, fits⟩ := ((agrees_iff inspected schema layout).mp agrees).2 _ listed editable
  obtain ⟨other, fitted, carries⟩ := (fields _ listed).member wire.layout (path.child name) value
    kept fits (typed name field value declared held) stays (passes.held declared editable held)
  obtain ⟨rfl, number⟩ := Value.eq_of_prune stays
  refine ⟨wire, other, found, WireField.fit_ok (value.isNaN_pruneEntry.trans number) fitted, ?_⟩
  intro again same
  rw [held] at same
  cases same
  exact carries

/-- No member that the layout requires is missing in what is left of a record. -/
theorem Schema.required_left {schema : Schema} {inspected : Bool} {layout : RecordLayout}
    {path : Path} {record : Record} (agrees : schema.agrees inspected layout = true)
    (distinct : (Members.names record).Nodup) (passes : schema.Passes inspected path record) :
    ∀ wire ∈ layout.fields, wire.presence.isRequired = true →
      ∃ kept, Members.get? (Value.pruneMembers record) wire.name = some kept := by
  intro wire member asked
  have provided := ((agrees_iff inspected schema layout).mp agrees).1 wire member
  obtain ⟨rfl, demanded, field, declared, editable⟩ := provides_required provided asked
  obtain ⟨value, held, filled⟩ := passes.required declared editable demanded
  refine ⟨value.pruneEntry, ?_⟩
  rw [Value.get?_pruneMembers distinct, held]
  exact Value.prune_of_isEmpty filled

theorem Schema.fitsWire_of_fields {schema : Schema}
    (fields : ∀ pair ∈ schema.fields, pair.2.FitsWire) : schema.FitsWire := by
  intro inspected layout path record agrees conforms passes
  obtain ⟨_, same, ⟨names, _⟩, _⟩ := conforms.of_composite rfl
  cases same
  obtain ⟨wire, fits, hold⟩ := RecordLayout.fit_ok
    (fun name _ other => ∀ value, Members.get? record name = some value → other.Carries value)
    (members_fit fields agrees conforms passes) (required_left agrees names passes)
  refine ⟨wire, fits, Value.carries_record ?_⟩
  intro name value held filled
  have left : Members.get? (Value.pruneMembers record) name = some value.pruneEntry := by
    rw [Value.get?_pruneMembers names, held]
    exact Value.prune_of_isEmpty filled
  obtain ⟨other, found, carries⟩ := hold name value.pruneEntry left
  exact ⟨other, found, carries value held⟩

section Scalar

variable {asked : Schema → Record → Prop} {field : Field} {rule : ScalarRule} {layout : Layout}
  {path : Path} {value kept : Value}

/-- A scalar that is left of a record fits, when there is nothing wrong with it. -/
theorem ScalarRule.fit_member (shape : field.shape = .scalar rule)
    (agrees : rule.agrees layout = true) (conforms : value.Conforms asked field)
    (stays : value.prune = some kept)
    (passes : value.isEmpty = true ∨ field.shape.violations field.title path value = []) :
    layout.fit value = .ok value := by
  rw [Value.isEmpty_of_prune (conforms.isScalar shape) stays] at passes
  refine ScalarRule.fit_ok shape agrees conforms fun cause misfit => ?_
  have reported := misfit.mem_violations path
  rw [passes.resolve_left Bool.false_ne_true] at reported
  cases reported

/-- A scalar in a list fits, when there is nothing wrong with it. -/
theorem ScalarRule.fit_entry (shape : field.shape = .scalar rule)
    (agrees : rule.entryAgrees layout = true) (conforms : value.Conforms asked field)
    (valid : field.entryViolations path value = []) : layout.fit value = .ok value := by
  cases blank : value.isUnfilled with
  | true => exact ScalarRule.fit_blank shape agrees conforms blank
  | false =>
      refine ScalarRule.fit_ok shape (ScalarRule.agrees_of_entryAgrees agrees) conforms ?_
      intro cause misfit
      have reported := misfit.mem_entryViolations (fun _ => value.isUnfilled_iff.mp blank) path
      rw [valid] at reported
      cases reported

end Scalar

theorem Field.fitsWire_scalar (title : String) (readOnly : Bool) (rule : ScalarRule) :
    Field.FitsWire ⟨title, readOnly, .scalar rule⟩ where
  member := by
    intro layout path value kept agrees conforms stays passes
    obtain ⟨rfl, _⟩ := Value.eq_of_prune stays
    rw [Value.pruneEntry_of_isScalar (conforms.isScalar rfl)]
    exact ⟨value, ScalarRule.fit_member rfl agrees conforms stays passes, .refl value⟩
  entry := by
    intro layout path value agrees conforms valid
    rw [Value.pruneEntry_of_isScalar (conforms.isScalar rfl)]
    exact ⟨value, ScalarRule.fit_entry rfl agrees conforms valid, .refl value⟩

theorem Field.fitsWire_composite (title : String) (readOnly : Bool) {below : Schema}
    (inside : below.FitsWire) : Field.FitsWire ⟨title, readOnly, .composite below⟩ where
  member := by
    intro layout path value kept agrees conforms stays passes
    obtain ⟨rfl, _⟩ := Value.eq_of_prune stays
    obtain ⟨members, rfl, _⟩ := conforms.of_composite rfl
    rw [Value.pruneEntry_record]
    cases layout with
    | record layout =>
        obtain ⟨wire, fits, carries⟩ :=
          inside false layout path members agrees (conforms.whole rfl) (.of_member passes)
        exact ⟨.record wire, Layout.fit_record fits, carries⟩
    | _ => cases agrees
  entry := by
    intro layout path value agrees conforms valid
    obtain ⟨members, rfl, _⟩ := conforms.of_composite rfl
    rw [Value.pruneEntry_record]
    cases layout with
    | record layout =>
        obtain ⟨wire, fits, carries⟩ :=
          inside true layout path members agrees (conforms.whole rfl) (.inl valid)
        exact ⟨.record wire, Layout.fit_record fits, carries⟩
    | _ => cases agrees

/-- A list fits as it is, entry by entry. -/
theorem Field.entries_fit {item : Field} (inside : item.FitsWire) {layout : Layout} {path : Path}
    {entries : List Value} (agrees : item.entryAgrees layout = true)
    (typed : ∀ entry ∈ entries, entry.Conforms Record.IsOwn item)
    (valid : item.entriesViolations path entries = []) :
    ∃ other : Value, (Layout.list layout).fit (.list (entries.map Value.pruneEntry)) = .ok other ∧
      other.Carries (.list entries) := by
  have each : ∀ entry ∈ entries,
      ∃ other : Value, layout.fit entry.pruneEntry = .ok other ∧ other.Carries entry := by
    intro entry member
    obtain ⟨position, there⟩ := List.mem_iff_getElem?.mp member
    exact inside.entry layout (path.entry position) entry agrees (typed entry member)
      (entryViolations_eq_nil valid there)
  obtain ⟨others, fits, hold⟩ := Layout.mapM_ok each
  have mapped : (entries.map Value.pruneEntry).mapM layout.fit = .ok others := by
    rw [List.mapM_map]
    exact fits
  exact ⟨.list others, Layout.fit_list mapped, Value.carries_list hold⟩

theorem Field.fitsWire_list (title : String) (readOnly : Bool) {item : Field} (dynamic : Bool)
    (inside : item.FitsWire) : Field.FitsWire ⟨title, readOnly, .list item dynamic⟩ where
  member := by
    intro layout path value kept agrees conforms stays passes
    obtain ⟨rfl, _⟩ := Value.eq_of_prune stays
    obtain ⟨entries, rfl, typed⟩ := conforms.of_list rfl
    rw [Value.pruneEntry_list]
    cases layout with
    | list layout => exact entries_fit inside agrees typed (entriesViolations_eq_nil passes)
    | _ => cases agrees
  entry := by
    intro layout path value agrees conforms valid
    obtain ⟨entries, rfl, typed⟩ := conforms.of_list rfl
    rw [Value.pruneEntry_list]
    cases layout with
    | list layout => exact entries_fit inside agrees typed valid
    | _ => cases agrees

theorem Schema.fitsWire (schema : Schema) : schema.FitsWire :=
  (Schema.descent Schema.FitsWire Field.FitsWire (fun _ => Schema.fitsWire_of_fields)
    Field.fitsWire_scalar (fun title readOnly _ => Field.fitsWire_composite title readOnly)
    (fun title readOnly _ dynamic => Field.fitsWire_list title readOnly dynamic)).1 schema

namespace Record

/-- A valid form of a new resource fits the wire layout of the resource, and each scalar in it that
is filled in is written at its path. -/
theorem toWire_of_edits (resource : Resource) (edits : List Edit)
    (builtIn : ∀ edit ∈ edits, edit.bringsEntry = false)
    (valid : (ofEdits resource.schema edits).isValid resource.schema = true) :
    ∃ wire, (ofEdits resource.schema edits).toWire resource = .ok wire ∧
      ∀ path value, (ofEdits resource.schema edits).at? path = some value →
        value.isScalar = true → value.isEmpty = false →
        wire.toJson.at? path = some value.toJson := by
  have typed : (Value.record (ofEdits resource.schema edits)).Conforms IsOwn
      resource.schema.whole :=
    conforms_afterEdits upheld_isOwn resource.isDistinct
      (fun edit inRun part inEdit => Part.fits_of_bringsEntry (builtIn edit inRun) inEdit)
      (conforms_blankRecord upheld_isOwn resource.isDistinct)
  have passes : resource.schema.Passes true [] (ofEdits resource.schema edits) :=
    .inl (List.isEmpty_iff.mp valid)
  obtain ⟨wire, fits, carries⟩ :=
    resource.schema.fitsWire true resource.layout [] _ resource.agrees typed passes
  refine ⟨wire, fits, ?_⟩
  intro path value there scalar filled
  have some : path ≠ [] := by
    rintro rfl
    cases there
  rw [at?_of_ne_nil _ some] at there
  have written : wire.toJson = (Value.record wire).toJson := by rw [Value.toJson, toJson]
  rw [written, Value.at?_toJson, carries path value there scalar filled]
  rfl

/-- A new policy gets a name and one rule, which gets a priority and the port of its destination. -/
def policyEdits : List Edit :=
  [.set [.field "name"] "p", .append [.field "traffic_rules"],
    .setEntry [.field "traffic_rules"] 0 "priority" "1",
    .set [.field "traffic_rules", .index 0, .field "destination", .field "ip_filter",
      .field "begin_port"] "80"]

theorem toWire_of_policyEdits :
    (∀ edit ∈ policyEdits, edit.bringsEntry = false) ∧
      (ofEdits Schema.trafficPolicy policyEdits).isValid Schema.trafficPolicy = true ∧
      ∃ wire, (ofEdits Schema.trafficPolicy policyEdits).toWire .trafficPolicy = .ok wire ∧
        wire.toJson.at? [.field "traffic_rules", .index 0, .field "destination",
          .field "ip_filter", .field "begin_port"] = some (.int 80) := by
  have valid : (ofEdits Schema.trafficPolicy policyEdits).isValid Schema.trafficPolicy = true := by
    decide
  have builtIn : ∀ edit ∈ policyEdits, edit.bringsEntry = false := by
    simp [policyEdits, Edit.bringsEntry]
  obtain ⟨wire, fits, written⟩ := toWire_of_edits .trafficPolicy policyEdits builtIn valid
  exact ⟨builtIn, valid, wire, fits, written _ (.int 80) rfl rfl rfl⟩

end Record

end ResourceEditor
