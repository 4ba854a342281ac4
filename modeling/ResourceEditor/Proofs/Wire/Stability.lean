import ResourceEditor.Proofs.Wire.Creation
import ResourceEditor.Proofs.Wire.Mirror
/-
This file shows that what a form is on the wire stays the same when it is written out, read as a
form again and put on the wire once more.
-/

namespace ResourceEditor

/-- A record holds one value for each name at most, and only for fields that are declared. -/
def Record.IsDeclared (schema : Schema) (record : Record) : Prop :=
  (Members.names record).Nodup ∧ ∀ name ∈ Members.names record,
    ∃ field, schema.field? name = some field

namespace RecordLayout

variable {layout : RecordLayout} {members wire : Record}

/-- What is left of a record fits when what is left of each member does and no required one is
missing. -/
theorem fit_pruneMembers_iff (unique : layout.names.Nodup)
    (distinct : (Members.names members).Nodup) :
    layout.fit (Value.pruneMembers members) = .ok wire ↔
      (∀ field ∈ layout.fields, ∀ kept,
        Members.get? (Value.pruneMembers members) field.name = some kept →
          ∃ other, field.layout.fit kept = .ok other) ∧
      (∀ field ∈ layout.fields, field.presence.isRequired = true →
        ∃ kept, Members.get? (Value.pruneMembers members) field.name = some kept) ∧
      layout.written (Value.pruneMembers members) = wire :=
  fit_eq_ok_iff unique ((Value.names_pruneMembers_sublist members).nodup distinct)
    fun _ => Value.isNaN_of_mem_pruneMembers

/-- A record on the wire fits again when each value in it does, and those that go when they are read
as a form are filled in again. -/
theorem fit_pruned_wire (unique : layout.names.Nodup) (distinct : (Members.names members).Nodup)
    (fits : layout.fit (Value.pruneMembers members) = .ok wire)
    (settled : ∀ field ∈ layout.fields, ∀ value,
      field.written? (Value.pruneMembers members) = some value →
        field.layout.fit value.pruneEntry = .ok value ∧
          (value.prune = none → field.presence.default? = some value)) :
    layout.fit (Value.pruneMembers wire) = .ok wire := by
  obtain ⟨each, required, rfl⟩ := (fit_pruneMembers_iff unique distinct).mp fits
  have names := (layout.names_written_sublist (Value.pruneMembers members)).nodup unique
  have left {field : WireField} (known : field ∈ layout.fields) :
      Members.get? (Value.pruneMembers (layout.written (Value.pruneMembers members))) field.name =
        (field.written? (Value.pruneMembers members)).bind Value.prune := by
    rw [Value.get?_pruneMembers names, get?_written unique known]
  refine (fit_pruneMembers_iff unique names).mpr ⟨?_, ?_, ?_⟩
  · intro field known kept there
    rw [left known] at there
    obtain ⟨value, held, stays⟩ := Option.bind_eq_some_iff.mp there
    obtain ⟨rfl, _⟩ := Value.eq_of_prune stays
    exact ⟨value, (settled field known value held).1⟩
  · intro field known asked
    obtain ⟨kept, there⟩ := required field known asked
    obtain ⟨_, other, _, _, held⟩ | ⟨absent, _⟩ := WireField.written?_cases (each field known)
    · rw [left known, held]
      obtain gone | ⟨stays, _⟩ := other.prune_cases
      · have own := (settled field known other held).2 gone
        cases presence : field.presence <;>
          simp [presence, Presence.default?, Presence.isRequired] at own asked
      · exact ⟨_, stays⟩
    · rw [there] at absent
      cases absent
  · refine written_congr fun field known => ?_
    rw [WireField.written?, left known]
    cases held : field.written? (Value.pruneMembers members) with
    | none =>
        obtain ⟨_, other, _, _, there⟩ | ⟨_, own⟩ := WireField.written?_cases (each field known)
        · rw [held] at there
          cases there
        · exact own.symm.trans held
    | some value =>
        obtain ⟨again, own⟩ := settled field known value held
        obtain gone | ⟨stays, _⟩ := value.prune_cases
        · rw [Option.bind_some, gone]
          exact own gone
        · rw [Option.bind_some, stays]
          dsimp only
          rw [again]
          rfl

end RecordLayout

/-- What a record of declared fields is on the wire fits again as it is, and something is left of it
if something was left of the record. -/
def Schema.IsStable (schema : Schema) : Prop :=
  ∀ layout record wire, schema.mirrors layout = true → layout.isSound = true →
    (Value.record record).Conforms Record.IsDeclared schema.whole →
    layout.fit (Value.pruneMembers record) = .ok wire →
    layout.fit (Value.pruneMembers wire) = .ok wire ∧
      (Value.pruneMembers wire = [] → Value.pruneMembers record = [])

/-- What a value for a field is on the wire fits again as it is, and it stays as a member if the
value does. -/
def Field.IsStable (field : Field) : Prop :=
  ∀ layout (value wire : Value), field.shape.mirrors layout = true → layout.isSound = true →
    value.Conforms Record.IsDeclared field → layout.fit value.pruneEntry = .ok wire →
    layout.fit wire.pruneEntry = .ok wire ∧ (wire.prune = none → value.prune = none)

/-- What a member that is left becomes on the wire fits again and is left again. -/
theorem Schema.member_stable {schema : Schema} (fields : ∀ pair ∈ schema.fields, pair.2.IsStable)
    {layout : RecordLayout} {record : Record} (mirrors : schema.mirrors layout = true)
    (sound : layout.isSound = true)
    (conforms : (Value.record record).Conforms Record.IsDeclared schema.whole) {place : WireField}
    (known : place ∈ layout.fields) {kept wire : Value}
    (there : Members.get? (Value.pruneMembers record) place.name = some kept)
    (fits : place.layout.fit kept = .ok wire) :
    place.layout.fit wire.pruneEntry = .ok wire ∧ wire.prune ≠ none := by
  obtain ⟨unique, each⟩ := layout.isSound_iff.mp sound
  obtain ⟨_, same, ⟨names, _⟩, typed⟩ := conforms.of_composite rfl
  cases same
  rw [Value.get?_pruneMembers names] at there
  obtain ⟨value, held, stays⟩ := Option.bind_eq_some_iff.mp there
  obtain ⟨rfl, _⟩ := Value.eq_of_prune stays
  obtain ⟨field, declared, same⟩ := field_of_mirrors mirrors unique known
  obtain ⟨again, lost⟩ := fields _ (Members.mem_of_get? declared) place.layout value wire
    ((field.mirrors_iff place.layout).mp same).1 (place.isSound_iff.mp (each place known)).2
    (typed _ field value declared held) fits
  refine ⟨again, fun gone => ?_⟩
  rw [lost gone] at stays
  cases stays

theorem Schema.isStable_of_fields {schema : Schema}
    (fields : ∀ pair ∈ schema.fields, pair.2.IsStable) : schema.IsStable := by
  intro layout record wire mirrors sound conforms fits
  obtain ⟨unique, each⟩ := layout.isSound_iff.mp sound
  obtain ⟨_, same, ⟨names, declares⟩, _⟩ := conforms.of_composite rfl
  cases same
  obtain ⟨fit, _, written⟩ := (RecordLayout.fit_pruneMembers_iff unique names).mp fits
  constructor
  · refine RecordLayout.fit_pruned_wire unique names fits ?_
    intro place known value held
    obtain ⟨kept, other, there, fitted, also⟩ | ⟨_, own⟩ :=
      WireField.written?_cases (fit place known)
    · rw [held, Option.some.injEq] at also
      subst also
      obtain ⟨again, stays⟩ := member_stable fields mirrors sound conforms known there fitted
      exact ⟨again, fun gone => absurd gone stays⟩
    · rw [held] at own
      obtain ⟨again, _, whole⟩ := Presence.fit_default
        (place.isSound_iff.mp (each place known)).1 own.symm
      rw [whole]
      exact ⟨again, fun _ => own.symm⟩
  · -- a member that is left is left on the wire as well
    intro nothing
    rw [List.eq_nil_iff_forall_not_mem]
    rintro ⟨name, kept⟩ member
    obtain ⟨value, inRecord, _⟩ := Value.mem_of_mem_pruneMembers member
    obtain ⟨field, declared⟩ := declares name (List.mem_map.mpr ⟨_, inRecord, rfl⟩)
    obtain ⟨place, known, rfl, _⟩ := wire_of_mirrors mirrors declared
    have there := Members.get?_of_mem ((Value.names_pruneMembers_sublist record).nodup names) member
    obtain ⟨_, other, again, fitted, held⟩ | ⟨absent, _⟩ :=
      WireField.written?_cases (fit place known)
    · obtain ⟨_, stays⟩ := member_stable fields mirrors sound conforms known again fitted
      have distinct := (layout.names_written_sublist (Value.pruneMembers record)).nodup unique
      have lost := Value.get?_pruneMembers distinct place.name
      rw [RecordLayout.get?_written unique known, held, written, nothing] at lost
      exact stays lost.symm
    · rw [there] at absent
      cases absent

/-- A scalar is on the wire what it was. -/
theorem ScalarRule.eq_of_fit {rule : ScalarRule} {layout : Layout} {value wire : Value}
    (mirrors : rule.mirrors layout = true) (scalar : value.isScalar = true)
    (fits : layout.fit value = .ok wire) : wire = value := by
  cases layout with
  | text =>
      rw [Layout.fit] at fits
      exact (Layout.fitText_ok fits).1
  | unsigned bits =>
      rw [Layout.fit] at fits
      exact (Layout.fitUnsigned_ok fits).1
  | choice choices =>
      rw [Layout.fit] at fits
      obtain ⟨content, rfl, rfl | ⟨inner, rfl, _⟩⟩ := Layout.fitChoice_ok fits
      · rfl
      · cases scalar
  | _ => cases mirrors

theorem Field.isStable_scalar (title : String) (readOnly : Bool) (rule : ScalarRule) :
    Field.IsStable ⟨title, readOnly, .scalar rule⟩ := by
  intro layout value wire mirrors _ conforms fits
  have scalar := conforms.isScalar rfl
  rw [Value.pruneEntry_of_isScalar scalar] at fits
  cases ScalarRule.eq_of_fit mirrors scalar fits
  rw [Value.pruneEntry_of_isScalar scalar]
  exact ⟨fits, fun gone => gone⟩

theorem Field.isStable_composite (title : String) (readOnly : Bool) {below : Schema}
    (inside : below.IsStable) : Field.IsStable ⟨title, readOnly, .composite below⟩ := by
  intro layout value wire mirrors sound conforms fits
  obtain ⟨members, rfl, _⟩ := conforms.of_composite rfl
  rw [Value.pruneEntry_record] at fits
  cases layout with
  | record layout =>
      obtain ⟨others, fitted, rfl⟩ := Layout.fit_members_ok_iff.mp fits
      obtain ⟨again, left⟩ :=
        inside layout members others mirrors sound (conforms.whole rfl) fitted
      rw [Value.pruneEntry_record, Value.prune_record_eq_none, Value.prune_record_eq_none]
      exact ⟨Layout.fit_record again, left⟩
  | _ => cases mirrors

theorem Field.isStable_list (title : String) (readOnly : Bool) {item : Field} (dynamic : Bool)
    (inside : item.IsStable) : Field.IsStable ⟨title, readOnly, .list item dynamic⟩ := by
  intro layout value wire mirrors sound conforms fits
  obtain ⟨entries, rfl, typed⟩ := conforms.of_list rfl
  rw [Value.pruneEntry_list] at fits
  cases layout with
  | list layout =>
      obtain ⟨others, each, rfl⟩ := Layout.fit_entries_ok_iff.mp fits
      have item := ((Field.mirrors_iff item layout).mp mirrors).1
      rw [List.forall₂_map_left_iff] at each
      rw [Value.pruneEntry_list]
      refine ⟨Layout.fit_entries_ok_iff.mpr ⟨others, ?_, rfl⟩, fun gone => ?_⟩
      · rw [List.forall₂_map_left_iff, List.forall₂_same]
        clear fits conforms
        induction each with
        | nil => exact List.forall_mem_nil _
        | cons here _ ih =>
            obtain ⟨first, rest⟩ := List.forall_mem_cons.mp typed
            exact List.forall_mem_cons.mpr ⟨(inside layout _ _ item sound first here).1, ih rest⟩
      · rw [Value.prune] at gone
        cases gone
  | _ => cases mirrors

theorem Schema.isStable (schema : Schema) : schema.IsStable :=
  (Schema.descent Schema.IsStable Field.IsStable (fun _ => Schema.isStable_of_fields)
    Field.isStable_scalar (fun title readOnly _ => Field.isStable_composite title readOnly)
    (fun title readOnly _ dynamic => Field.isStable_list title readOnly dynamic)).1 schema

namespace Record

/-- What a form of declared fields is on the wire is read from its document as a form that is the
same on the wire. -/
theorem toWire_stable (resource : Resource) {model wire : Record}
    (typed : (Value.record model).Conforms IsDeclared resource.schema.whole)
    (fits : model.toWire resource = .ok wire) :
    ∃ again, ofJson wire.toJson = .ok again ∧ again.toWire resource = .ok wire :=
  ⟨wire, ofJson_toWire fits,
    (resource.schema.isStable resource.layout model wire resource.mirrors resource.layout_isSound
      typed fits).1⟩

theorem IsOwn.isDeclared {schema : Schema} {record : Record} (own : record.IsOwn schema) :
    record.IsDeclared schema := by
  refine ⟨own.1, fun name member => ?_⟩
  obtain ⟨field, declared, _⟩ := own.2 name member
  exact ⟨field, declared⟩

/-- The new policy with its rule stays the same, with what stands in it for the parts of the filter
that are missing. -/
theorem toWire_stable_policyEdits :
    (Value.record (ofEdits Schema.trafficPolicy policyEdits)).Conforms IsDeclared
        Schema.trafficPolicy.whole ∧
      ∃ wire again, (ofEdits Schema.trafficPolicy policyEdits).toWire .trafficPolicy = .ok wire ∧
        wire.toJson.at? [.field "traffic_rules", .index 0, .field "destination",
          .field "ip_filter", .field "protocol"] = some (.string "all") ∧
        ofJson wire.toJson = .ok again ∧ again.toWire .trafficPolicy = .ok wire := by
  have builtIn : ∀ edit ∈ policyEdits, edit.bringsEntry = false := by
    simp [policyEdits, Edit.bringsEntry]
  have own : (Value.record (ofEdits Schema.trafficPolicy policyEdits)).Conforms IsOwn
      Schema.trafficPolicy.whole :=
    conforms_afterEdits upheld_isOwn (Resource.isDistinct .trafficPolicy)
      (fun edit inRun part inEdit => Part.fits_of_bringsEntry (builtIn edit inRun) inEdit)
      (conforms_blankRecord upheld_isOwn (Resource.isDistinct .trafficPolicy))
  have typed := own.mono fun schema record => IsOwn.isDeclared
  have fits : ∃ wire, (ofEdits Schema.trafficPolicy policyEdits).toWire .trafficPolicy = .ok wire ∧
      wire.toJson.at? [.field "traffic_rules", .index 0, .field "destination",
          .field "ip_filter", .field "protocol"] = some (.string "all") := ⟨_, rfl, rfl⟩
  obtain ⟨wire, fits, there⟩ := fits
  obtain ⟨again, read, same⟩ := toWire_stable .trafficPolicy typed fits
  exact ⟨typed, wire, again, fits, there, read, same⟩

end Record

end ResourceEditor
