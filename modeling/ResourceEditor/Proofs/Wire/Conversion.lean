import ResourceEditor.Proofs.Edit.Normalization
import ResourceEditor.Proofs.Value.Distinct
import ResourceEditor.Proofs.Wire.Creation
import ResourceEditor.Proofs.Wire.Stability
/-
This file says which valid forms fit the wire layout of their resource: those in which each value
that is left is of the kind of its field. Validation does not ask for that, since it goes by how a
scalar reads.
-/

namespace ResourceEditor

/-- Whether a scalar is of the kind of a rule: an integer or a text. -/
def ScalarRule.takes (rule : ScalarRule) : Value → Bool
  | .text _ => rule.kind != .number
  | .number (.int _) => rule.kind == .number
  | _ => false

mutual

/-- Whether what a record has for each field is of the kind of the field, at every depth. -/
def Schema.takes : Schema → Record → Bool
  | ⟨_, fields, _, _⟩, record => Schema.fieldsTake record fields

def Schema.fieldsTake (record : Record) : List (String × Field) → Bool
  | [] => true
  | (name, field) :: rest =>
      (match Members.get? record name with
      | some value => field.takes value
      | none => true) && Schema.fieldsTake record rest

def Field.takes : Field → Value → Bool
  | ⟨_, _, shape⟩, value => shape.takes value

/-- A record of a schema may also be a list without entries. -/
def Shape.takes : Shape → Value → Bool
  | .scalar rule, value => rule.takes value
  | .composite schema, .record members => schema.takes members
  | .composite _, .list entries => entries.isEmpty
  | .list item _, .list entries => entries.all item.takes
  | _, _ => false

end

theorem Schema.fieldsTake_iff (record : Record) (fields : List (String × Field)) :
    fieldsTake record fields = true ↔ ∀ pair ∈ fields, ∀ value,
      Members.get? record pair.1 = some value → pair.2.takes value = true := by
  induction fields with
  | nil => simp [fieldsTake]
  | cons pair rest ih =>
      rw [fieldsTake, Bool.and_eq_true, ih, List.forall_mem_cons]
      refine and_congr_left fun _ => ?_
      cases Members.get? record pair.1 <;> simp

theorem Schema.takes_iff {schema : Schema} (distinct : schema.isDistinct = true)
    (record : Record) :
    schema.takes record = true ↔ ∀ name field value, schema.field? name = some field →
      Members.get? record name = some value → field.takes value = true := by
  have names := (schema.isDistinct_iff.mp distinct).1
  have opened : schema.takes record = fieldsTake record schema.fields := by
    obtain ⟨title, fields, required, orders⟩ := schema
    rw [takes]
  rw [opened, fieldsTake_iff]
  constructor
  · intro each name field value declared held
    exact each _ (Members.mem_of_get? declared) value held
  · intro each pair member value held
    exact each pair.1 pair.2 value (Members.get?_of_mem names member) held

theorem Field.takes_eq (field : Field) (value : Value) :
    field.takes value = field.shape.takes value := by
  obtain ⟨title, readOnly, shape⟩ := field
  rfl

namespace ScalarRule

variable {rule : ScalarRule} {layout : Layout} {value wire : Value}

/-- What is left of a value is of the kind of its field if it fits. -/
theorem takes_of_fit (mirrors : rule.mirrors layout = true)
    (fits : layout.fit value.pruneEntry = .ok wire) : rule.takes value.pruneEntry = true := by
  cases layout with
  | text =>
      rw [Layout.fit] at fits
      obtain ⟨_, content, same⟩ := Layout.fitText_ok fits
      rw [same]
      exact mirrors
  | unsigned bits =>
      rw [Layout.fit] at fits
      obtain ⟨_, number, same, _⟩ := Layout.fitUnsigned_ok fits
      rw [same]
      exact mirrors
  | choice choices =>
      rw [Layout.fit] at fits
      obtain ⟨content, _, same | ⟨inner, same, mark⟩⟩ := Layout.fitChoice_ok fits
      · rw [same]
        exact mirrors
      · -- a record that is left has no mark in it
        cases value with
        | record members =>
            rw [Value.pruneEntry_record, Value.record.injEq] at same
            have inside : (content, inner) ∈ Value.pruneMembers members := by
              rw [same]
              exact List.mem_singleton_self _
            rw [Value.isNaN_of_mem_pruneMembers inside] at mark
            cases mark
        | list entries =>
            rw [Value.pruneEntry_list] at same
            cases same
        | _ =>
            rw [Value.pruneEntry_of_isScalar rfl] at same
            cases same
  | _ => cases mirrors

/-- A value of which something of the kind of a rule is left is a scalar of a field with that
rule. -/
theorem conforms_of_takes {field : Field} (shape : field.shape = .scalar rule)
    (takes : rule.takes value.pruneEntry = true) : value.Conforms (fun _ _ => True) field := by
  cases value with
  | text content =>
      rw [Value.pruneEntry_of_isScalar rfl, ScalarRule.takes, bne_iff_ne] at takes
      exact .text shape takes content
  | number number =>
      rw [Value.pruneEntry_of_isScalar rfl] at takes
      cases number with
      | int number =>
          rw [ScalarRule.takes, beq_iff_eq] at takes
          exact .number shape takes _
      | notANumber => cases takes
  | bool flag =>
      rw [Value.pruneEntry_of_isScalar rfl] at takes
      cases takes
  | record members =>
      rw [Value.pruneEntry_record] at takes
      cases takes
  | list entries =>
      rw [Value.pruneEntry_list] at takes
      cases takes

/-- What is left of a value fits just when it is of the kind of its field, if a value of the right
shape fits. -/
theorem fits_iff_takes {field : Field} (shape : field.shape = .scalar rule)
    (mirrors : rule.mirrors layout = true)
    (fits : value.Conforms (fun _ _ => True) field → layout.fit value = .ok value) :
    (∃ wire, layout.fit value.pruneEntry = .ok wire) ↔ field.takes value.pruneEntry = true := by
  rw [Field.takes_eq, shape, Shape.takes]
  constructor
  · rintro ⟨wire, fitted⟩
    exact rule.takes_of_fit mirrors fitted
  · intro takes
    have conforms := conforms_of_takes shape takes
    rw [Value.pruneEntry_of_isScalar (conforms.isScalar shape)]
    exact ⟨value, fits conforms⟩

end ScalarRule

/-- Any text fits a place for texts. -/
theorem Field.fits_text_iff {field : Field} {value : Value}
    (mirrors : field.shape.mirrors .text = true) :
    (∃ wire, Layout.text.fit value.pruneEntry = .ok wire) ↔
      field.takes value.pruneEntry = true := by
  cases shape : field.shape with
  | scalar rule =>
      rw [shape, Shape.mirrors] at mirrors
      refine ScalarRule.fits_iff_takes shape mirrors fun conforms => ?_
      obtain ⟨kind, _⟩ | ⟨_, content, rfl⟩ := conforms.of_scalar shape
      · simp [ScalarRule.mirrors, kind] at mirrors
      · rw [Layout.fit, Layout.fitText]
  | _ =>
      rw [shape] at mirrors
      cases mirrors

/-- What is left of a record fits a layout just when it is of the right kinds. -/
def Schema.FitsKinds (schema : Schema) : Prop :=
  ∀ inspected layout path record, schema.Meets inspected layout →
    Record.isDistinct record = true → schema.Passes inspected path record →
    ((∃ wire, layout.fit (Value.pruneMembers record) = .ok wire) ↔
      schema.takes (Value.pruneMembers record) = true)

/-- What is left of a value for a field fits a layout just when it is of the right kinds: as a
member when it is blank or there is nothing wrong with it, as a list entry when there is nothing
wrong. -/
structure Field.FitsKinds (field : Field) : Prop where
  member : ∀ layout path (value kept : Value), field.Meets layout → value.isDistinct = true →
    value.prune = some kept →
    (value.isEmpty = true ∨ field.shape.violations field.title path value = []) →
    ((∃ wire, layout.fit kept = .ok wire) ↔ field.takes kept = true)
  entry : ∀ layout path (value : Value), field.EntryMeets layout → value.isDistinct = true →
    field.entryViolations path value = [] →
    ((∃ wire, layout.fit value.pruneEntry = .ok wire) ↔ field.takes value.pruneEntry = true)

/-- A member that is left fits just when it is of the right kind, and a read-only one too. -/
theorem Schema.member_fitsKinds {schema : Schema}
    (fields : ∀ pair ∈ schema.fields, pair.2.FitsKinds) {inspected : Bool}
    {layout : RecordLayout} {path : Path} {record : Record}
    (meets : schema.Meets inspected layout) (maps : Record.isDistinct record = true)
    (passes : schema.Passes inspected path record) {field : Field} {place : WireField}
    (declared : schema.field? place.name = some field) (known : place ∈ layout.fields)
    {kept : Value} (there : Members.get? (Value.pruneMembers record) place.name = some kept) :
    (∃ wire, place.layout.fit kept = .ok wire) ↔ field.takes kept = true := by
  obtain ⟨names, inside⟩ := (Value.isDistinct_record record).mp maps
  rw [Value.get?_pruneMembers names] at there
  obtain ⟨value, held, stays⟩ := Option.bind_eq_some_iff.mp there
  obtain ⟨same, editable⟩ := meets.of_known known declared
  cases writable : field.readOnly with
  | true =>
      -- a read-only field is a plain text, whatever validation says of it
      obtain ⟨shape, plain⟩ := (field.mirrors_iff place.layout).mp same
      obtain ⟨rfl, _⟩ := Value.eq_of_prune stays
      cases form : place.layout with
      | text =>
          rw [form] at shape
          exact Field.fits_text_iff shape
      | _ =>
          rw [form] at plain
          cases plain writable
  | false =>
      exact (fields _ (Members.mem_of_get? declared)).member place.layout (path.child place.name)
        value kept (editable writable) (inside _ (Members.mem_of_get? held)) stays
        (passes.held declared writable held)

theorem Schema.fitsKinds_of_fields {schema : Schema}
    (fields : ∀ pair ∈ schema.fields, pair.2.FitsKinds) : schema.FitsKinds := by
  intro inspected layout path record meets maps passes
  have names := ((Value.isDistinct_record record).mp maps).1
  rw [Schema.takes_iff meets.distinct]
  constructor
  · rintro ⟨wire, fits⟩ name field kept declared there
    obtain ⟨each, _⟩ := (RecordLayout.fit_pruneMembers_iff meets.unique names).mp fits
    obtain ⟨place, known, rfl, _⟩ := meets.place declared
    exact (member_fitsKinds fields meets maps passes declared known there).mp
      (each place known kept there)
  · intro takes
    refine ⟨_, (RecordLayout.fit_pruneMembers_iff meets.unique names).mpr ⟨?_, ?_, rfl⟩⟩
    · intro place known kept there
      obtain ⟨field, declared, _⟩ := field_of_mirrors meets.mirrors meets.unique known
      exact (member_fitsKinds fields meets maps passes declared known there).mpr
        (takes _ field kept declared there)
    · exact required_left meets.agrees names passes

theorem Field.fitsKinds_scalar (title : String) (readOnly : Bool) (rule : ScalarRule) :
    Field.FitsKinds ⟨title, readOnly, .scalar rule⟩ where
  member := by
    intro layout path value kept meets _ stays passes
    obtain ⟨rfl, _⟩ := Value.eq_of_prune stays
    exact ScalarRule.fits_iff_takes rfl meets.mirrors fun conforms =>
      ScalarRule.fit_member rfl meets.agrees conforms stays passes
  entry := by
    intro layout path value meets _ valid
    exact ScalarRule.fits_iff_takes rfl meets.mirrors fun conforms =>
      ScalarRule.fit_entry rfl meets.agrees conforms valid

/-- A list without entries fits as a record of which nothing is required. -/
theorem Schema.Meets.fit_nil {below : Schema} {layout : RecordLayout}
    (meets : below.Meets false layout) : ∃ wire, layout.fit [] = .ok wire := by
  have names : (Members.names ([] : Record)).Nodup := List.nodup_nil
  refine ⟨layout.written [], ?_⟩
  refine (RecordLayout.fit_eq_ok_iff meets.unique names (List.forall_mem_nil _)).mpr ⟨?_, ?_, rfl⟩
  · intro field _ value never
    cases never
  · intro field known asked
    obtain ⟨never, _⟩ := Schema.provides_required
      (((Schema.agrees_iff false below layout).mp meets.agrees).1 field known) asked
    cases never

/-- A record fits as a member or entry just when it fits as a record. -/
theorem Layout.fit_members_isOk_iff {layout : RecordLayout} {members : Record} :
    (∃ wire, (Layout.record layout).fit (.record members) = .ok wire) ↔
      ∃ wire, layout.fit members = .ok wire := by
  simp only [Layout.fit_members_ok_iff]
  rw [exists_comm]
  simp only [exists_and_left, exists_eq', and_true]

section Passing

variable {below : Schema} {item : Field} {dynamic : Bool} {title : String} {path : Path}
  {value kept : Value}

/-- A member of a composite field that is left and passes is a record, or a list without entries,
which validation takes for a blank. -/
theorem Value.record_or_nil (stays : value.prune = some kept)
    (passes : value.isEmpty = true ∨ (Shape.composite below).violations title path value = []) :
    (∃ members, value = .record members) ∨ value = .list [] := by
  cases value with
  | record members => exact .inl ⟨members, rfl⟩
  | list entries =>
      cases entries with
      | nil => exact .inr rfl
      | cons first rest => cases passes <;> contradiction
  | _ =>
      rw [Value.isEmpty_of_prune rfl stays] at passes
      cases passes.resolve_left Bool.false_ne_true

/-- A member of a list field that is left and passes is a list, or a record in which nothing is
filled in. -/
theorem Value.list_or_record (stays : value.prune = some kept)
    (passes : value.isEmpty = true ∨ (Shape.list item dynamic).violations title path value = []) :
    (∃ entries, value = .list entries) ∨ ∃ members, value = .record members := by
  cases value with
  | list entries => exact .inl ⟨entries, rfl⟩
  | record members => exact .inr ⟨members, rfl⟩
  | _ =>
      rw [Value.isEmpty_of_prune rfl stays] at passes
      cases passes.resolve_left Bool.false_ne_true

/-- A list entry of a composite field that passes is a record. -/
theorem Value.record_of_entry {readOnly : Bool}
    (valid : Field.entryViolations ⟨title, readOnly, .composite below⟩ path value = []) :
    ∃ members, value = .record members := by
  obtain other | record := value.record?_cases
  · rw [Field.entryViolations_eq, Shape.entryViolations_notObject other] at valid
    cases valid
  · exact record

/-- A list entry of a list field that passes is a list. -/
theorem Value.list_of_entry {readOnly : Bool}
    (valid : Field.entryViolations ⟨title, readOnly, .list item dynamic⟩ path value = []) :
    ∃ entries, value = .list entries := by
  obtain other | list := value.list?_cases
  · rw [Field.entryViolations_eq, Shape.entryViolations_notList other] at valid
    cases valid
  · exact list

end Passing

theorem Field.fitsKinds_composite (title : String) (readOnly : Bool) {below : Schema}
    (inside : below.FitsKinds) : Field.FitsKinds ⟨title, readOnly, .composite below⟩ where
  member := by
    intro layout path value kept meets maps stays passes
    obtain ⟨rfl, _⟩ := Value.eq_of_prune stays
    obtain ⟨layout, rfl, within⟩ := meets.of_composite
    obtain ⟨members, rfl⟩ | rfl := Value.record_or_nil stays passes
    · rw [Value.pruneEntry_record, Layout.fit_members_isOk_iff]
      exact inside false layout path members within maps (.of_member passes)
    · refine iff_of_true ?_ rfl
      obtain ⟨wire, fits⟩ := within.fit_nil
      exact ⟨_, Layout.fit_nil_ok_iff.mpr (Layout.fit_record fits)⟩
  entry := by
    intro layout path value meets maps valid
    obtain ⟨layout, rfl, within⟩ := meets.of_composite
    obtain ⟨members, rfl⟩ := Value.record_of_entry valid
    rw [Value.pruneEntry_record, Layout.fit_members_isOk_iff]
    exact inside true layout path members within maps (.inl valid)

/-- A list fits just when each of its entries is of the right kind. -/
theorem Field.entries_fitKinds {item : Field} (inside : item.FitsKinds) {layout : Layout}
    {path : Path} {entries : List Value} (meets : item.EntryMeets layout)
    (maps : (Value.list entries).isDistinct = true)
    (valid : item.entriesViolations path entries = []) :
    (∃ wire, (Layout.list layout).fit (.list (entries.map Value.pruneEntry)) = .ok wire) ↔
      (entries.map Value.pruneEntry).all item.takes = true := by
  rw [Layout.fit_entries_isOk_iff, List.all_eq_true, List.forall_mem_map, List.forall_mem_map]
  refine forall₂_congr fun entry member => ?_
  obtain ⟨position, there⟩ := List.mem_iff_getElem?.mp member
  exact inside.entry layout (path.entry position) entry meets
    ((Value.isDistinct_list entries).mp maps entry member) (entryViolations_eq_nil valid there)

theorem Field.fitsKinds_list (title : String) (readOnly : Bool) {item : Field} (dynamic : Bool)
    (inside : item.FitsKinds) : Field.FitsKinds ⟨title, readOnly, .list item dynamic⟩ where
  member := by
    intro layout path value kept meets maps stays passes
    obtain ⟨rfl, _⟩ := Value.eq_of_prune stays
    obtain ⟨layout, rfl, within⟩ := meets.of_list
    obtain ⟨entries, rfl⟩ | ⟨members, rfl⟩ := Value.list_or_record stays passes
    · rw [Value.pruneEntry_list]
      exact entries_fitKinds inside within maps (entriesViolations_eq_nil passes)
    · rw [Value.pruneEntry_record]
      refine iff_of_false (fun ⟨wire, fits⟩ => ?_) Bool.false_ne_true
      obtain ⟨_, _, never, _⟩ := Layout.fit_list_ok_iff.mp fits
      cases never
  entry := by
    intro layout path value meets maps valid
    obtain ⟨layout, rfl, within⟩ := meets.of_list
    obtain ⟨entries, rfl⟩ := Value.list_of_entry valid
    rw [Value.pruneEntry_list]
    exact entries_fitKinds inside within maps valid

theorem Schema.fitsKinds (schema : Schema) : schema.FitsKinds :=
  (Schema.descent Schema.FitsKinds Field.FitsKinds (fun _ => Schema.fitsKinds_of_fields)
    Field.fitsKinds_scalar (fun title readOnly _ => Field.fitsKinds_composite title readOnly)
    (fun title readOnly _ dynamic => Field.fitsKinds_list title readOnly dynamic)).1 schema

namespace Record

/-- A valid form of a resource of the controller fits the wire layout of the resource just when
each value that is left of it is of the kind of its field. -/
theorem toWire_isOk_iff (resource : Resource) {document : Json} {model : Record}
    (maps : document.isDistinct = true)
    (read : Record.ofResource resource.schema document = .ok model)
    (valid : model.isValid resource.schema = true) :
    (∃ wire, model.toWire resource = .ok wire) ↔ resource.schema.takes model.pruned = true :=
  resource.schema.fitsKinds true resource.layout [] model resource.meets
    (isDistinct_ofResource resource.isDistinct maps read) (.inl (List.isEmpty_iff.mp valid))

/-- A node whose name is a number. -/
def numberedNode : Json :=
  .object [("name", .int 7), ("location", .string "lab"), ("serial", .string "SN1")]

theorem numberedNode_toWire_iff :
    ∃ model, numberedNode.isDistinct = true ∧
      Record.ofResource Schema.node numberedNode = .ok model ∧
      model.isValid Schema.node = true ∧ Schema.node.takes model.pruned = false ∧
      ¬∃ wire, model.toWire .node = .ok wire := by
  have maps : numberedNode.isDistinct = true := by decide
  have read : Record.ofResource Schema.node numberedNode =
      .ok [("name", .int 7), ("location", .text "lab"), ("serial", .text "SN1")] := rfl
  have valid : Record.isValid Schema.node
      [("name", .int 7), ("location", .text "lab"), ("serial", .text "SN1")] = true := by decide
  have other : Schema.node.takes
      (Record.pruned [("name", .int 7), ("location", .text "lab"), ("serial", .text "SN1")]) =
        false := by decide
  refine ⟨_, maps, read, valid, other, fun converts => ?_⟩
  rw [toWire_isOk_iff .node maps read valid, Resource.schema, other] at converts
  cases converts

/-- Not every valid form of a resource of the controller fits its wire layout. -/
theorem valid_unconverted :
    ¬∀ (resource : Resource) (document : Json) (model : Record), document.isDistinct = true →
      Record.ofResource resource.schema document = .ok model →
      model.isValid resource.schema = true → ∃ wire, model.toWire resource = .ok wire := by
  intro always
  obtain ⟨wire, fits⟩ := always .node numberedNode
    [("name", .int 7), ("location", .text "lab"), ("serial", .text "SN1")] (by decide) rfl
    (by decide)
  cases fits

end Record

end ResourceEditor
