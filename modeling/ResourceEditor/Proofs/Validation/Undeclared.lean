import ResourceEditor.Proofs.Schema.Insertion
import ResourceEditor.Proofs.Validation.Composition
import ResourceEditor.Proofs.Validation.Pruning
import ResourceEditor.Proofs.Validation.Visibility
/-
This file says what members that a schema knows nothing of do to the report about a form: nothing,
unless they are all that is filled in in a member record.
-/

namespace ResourceEditor

open Violation

/-- What stands at a place once members are inserted. -/
inductive Place.Extends : Place → Place → Prop where
  | record {schema : Schema} {members more : Record} (grown : schema.Extends members more) :
      Extends (.record schema members) (.record schema more)
  | entry {item : Field} {value other : Value} (grown : item.Extends value other) :
      Extends (.entry item value) (.entry item other)

theorem Place.Extends.of_record {schema : Schema} {members : Record} {other : Place}
    (grown : Place.Extends (.record schema members) other) :
    ∃ more, other = .record schema more ∧ schema.Extends members more := by
  cases grown with
  | record grown => exact ⟨_, rfl, grown⟩

theorem Place.Extends.of_entry {item : Field} {value : Value} {other : Place}
    (grown : Place.Extends (.entry item value) other) :
    ∃ more, other = .entry item more ∧ item.Extends value more := by
  cases grown with
  | entry grown => exact ⟨_, rfl, grown⟩

/-- What was looked at still is. -/
theorem Inspected.extended {form : Schema} {model more : Record} {path : Path} {place : Place}
    (distinct : form.isDistinct = true) (grown : form.Extends model more)
    (inspected : Inspected form model path place) :
    ∃ other, Inspected form more path other ∧ place.Extends other := by
  induction inspected with
  | form => exact ⟨_, .form, .record grown⟩
  | part within declared editable shape held filled ih =>
      obtain ⟨_, reached, outer⟩ := ih
      obtain ⟨_, rfl, grown⟩ := outer.of_record
      have names := ((Schema.isDistinct_iff _).mp (within.isDistinct distinct)).1
      obtain ⟨other, there, inner⟩ := grown.of_get? names declared held
      obtain ⟨more, rfl, below⟩ := inner.record shape
      have full := inner.isEmpty (Value.isEmpty_record filled)
      exact ⟨_, reached.part declared editable shape there
        ((Value.allEmpty_eq_false_iff more).mp full), .record below⟩
  | listed within declared editable shape held there ih =>
      obtain ⟨_, reached, outer⟩ := ih
      obtain ⟨_, rfl, grown⟩ := outer.of_record
      have names := ((Schema.isDistinct_iff _).mp (within.isDistinct distinct)).1
      obtain ⟨other, here, inner⟩ := grown.of_get? names declared held
      obtain ⟨others, rfl, each⟩ := inner.list shape
      obtain ⟨entry, found, inside⟩ := Field.Extends.getElem? each there
      exact ⟨_, reached.listed declared editable shape here found, .entry inside⟩
  | nested within shape there ih =>
      obtain ⟨_, reached, outer⟩ := ih
      obtain ⟨_, rfl, inner⟩ := outer.of_entry
      obtain ⟨others, rfl, each⟩ := inner.list shape
      obtain ⟨entry, found, inside⟩ := Field.Extends.getElem? each there
      exact ⟨_, reached.nested shape found, .entry inside⟩
  | opened within shape ih =>
      obtain ⟨_, reached, outer⟩ := ih
      obtain ⟨_, rfl, inner⟩ := outer.of_entry
      obtain ⟨more, rfl, below⟩ := inner.record shape
      exact ⟨_, reached.opened shape, .record below⟩

/-- A member record in which nothing was filled in, and in which something is once members are
inserted: where it is, whether it is required, its schema, and what it then is. -/
inductive Awakened (form : Schema) (model more : Record) :
    Path → Bool → Schema → Record → Prop where
  | member {path : Path} {schema below : Schema} {record members others : Record} {name : String}
      {field : Field} (within : Inspected form model path (.record schema record))
      (declared : (name, field) ∈ schema.fields) (editable : field.readOnly = false)
      (shape : field.shape = .composite below)
      (held : Members.get? record name = some (.record members))
      (blank : (Value.record members).isEmpty = true)
      (there : (Value.record more).at? (path.child name) = some (.record others))
      (filled : (Value.record others).isEmpty = false) :
      Awakened form model more (path.child name) (schema.required.contains name) below others

/-- Whatever awakes is optional and has nothing wrong with it. -/
def AwakensQuietly (form : Schema) (model more : Record) : Prop :=
  ∀ path required below others, Awakened form model more path required below others →
    required = false ∧ Record.isValid below others = true

section Quiet

variable {form : Schema} {model more : Record}

/-- A record that is looked at has the same report once members are inserted. -/
def Schema.ReportsAlike (schema form : Schema) (model more : Record) : Prop :=
  ∀ path record others, Inspected form model path (.record schema record) →
    (Value.record more).at? path = some (.record others) → schema.Extends record others →
    schema.violations path others = schema.violations path record

/-- A value that is looked at for a field has the same report once members are inserted, where it is
filled in and a record holds it, and where it is a list entry. -/
structure Field.ReportsAlike (field : Field) (form : Schema) (model more : Record) : Prop where
  held : ∀ path value other, Visible form model path field value →
    (Value.record more).at? path = some other → field.Extends value other →
    value.isEmpty = false →
    field.shape.violations field.title path other = field.shape.violations field.title path value
  entry : ∀ path value other, Inspected form model path (.entry field value) →
    (Value.record more).at? path = some other → field.Extends value other →
    field.entryViolations path other = field.entryViolations path value

/-- A member that was blank is not reported on because of what is inserted into it. -/
theorem Field.violations_blank_alike (quiet : AwakensQuietly form model more) {path : Path}
    {schema : Schema} {record : Record} {name : String} {field : Field} {value other : Value}
    (within : Inspected form model path (.record schema record))
    (declared : (name, field) ∈ schema.fields) (editable : field.readOnly = false)
    (held : Members.get? record name = some value)
    (there : (Value.record more).at? (path.child name) = some other)
    (grown : field.Extends value other) (blank : value.isEmpty = true) :
    field.violations (schema.required.contains name) (path.child name) (some other) =
      field.violations (schema.required.contains name) (path.child name) (some value) := by
  obtain rfl | ⟨below, members, others, shape, rfl, rfl, _⟩ |
    ⟨_, _, entries, others, _, rfl, rfl, each⟩ := grown.eq_or_inside
  · rfl
  · cases filled : (Value.record others).isEmpty with
    | true =>
        cases schema.required.contains name with
        | true =>
            rw [violations_required editable, violations_required editable]
            · rintro _ ⟨⟩
              exact blank
            · rintro _ ⟨⟩
              exact filled
        | false =>
            rw [violations_unfilled editable, violations_unfilled editable]
            · rintro _ ⟨⟩
              exact ⟨blank, rfl⟩
            · rintro _ ⟨⟩
              exact ⟨filled, rfl⟩
    | false =>
        obtain ⟨optional, valid⟩ :=
          quiet _ _ _ _ (.member within declared editable shape held blank there filled)
        rw [Record.isValid, List.isEmpty_iff] at valid
        rw [optional, violations_filled editable (.inl filled), violations_unfilled editable, shape,
          Shape.violations_record ((Value.allEmpty_eq_false_iff others).mp filled),
          below.violations_at, valid, List.map_nil]
        rintro _ ⟨⟩
        exact ⟨blank, rfl⟩
  · rw [Value.isEmpty, List.isEmpty_iff] at blank
    subst blank
    rw [List.forall₂_nil_left_iff] at each
    subst each
    rfl

theorem Schema.reportsAlike_of_fields (distinct : form.isDistinct = true)
    (quiet : AwakensQuietly form model more) {schema : Schema}
    (fields : ∀ pair ∈ schema.fields, pair.2.ReportsAlike form model more) :
    schema.ReportsAlike form model more := by
  intro path record others within there grown
  have names := (schema.isDistinct_iff.mp (within.isDistinct distinct)).1
  have rules : schema.orderViolations path others = schema.orderViolations path record := by
    rw [orderViolations, orderViolations]
    congr 1
    refine List.filter_congr fun rule asked => ?_
    rw [OrderRule.isBroken, OrderRule.isBroken,
      grown.integer?_eq fun foreign => (foreign.2 rule asked).1 rfl,
      grown.integer?_eq fun foreign => (foreign.2 rule asked).2 rfl]
  rw [violations_eq, violations_eq, rules]
  congr 1
  refine List.flatMap_congr ?_
  rintro ⟨name, field⟩ declared
  dsimp only
  obtain ⟨here, gone⟩ | ⟨value, other, here, stays, inner⟩ := grown.field names declared
  · rw [here, gone]
  rw [here, stays]
  cases editable : field.readOnly with
  | true => rw [Field.violations_readOnly editable, Field.violations_readOnly editable]
  | false =>
      have reached : (Value.record more).at? (path.child name) = some other :=
        (Value.at?_child there name).trans stays
      cases blank : value.isEmpty with
      | true =>
          exact Field.violations_blank_alike quiet within declared editable here reached inner blank
      | false =>
          rw [Field.violations_filled editable (.inl blank),
            Field.violations_filled editable (.inl (inner.isEmpty blank))]
          exact (fields _ declared).held _ value other (.member within declared editable here)
            reached inner blank

theorem Field.reportsAlike_scalar (title : String) (readOnly : Bool) (rule : ScalarRule) :
    Field.ReportsAlike ⟨title, readOnly, .scalar rule⟩ form model more where
  held := by
    intro path value other visible there grown filled
    rw [Field.Extends, Shape.Extends] at grown
    rw [grown]
  entry := by
    intro path value other inspected there grown
    rw [Field.Extends, Shape.Extends] at grown
    rw [grown]

theorem Field.reportsAlike_composite (title : String) (readOnly : Bool) {below : Schema}
    (inside : below.ReportsAlike form model more) :
    Field.ReportsAlike ⟨title, readOnly, .composite below⟩ form model more where
  held := by
    intro path value other visible there grown filled
    obtain rfl | ⟨_, members, others, shape, rfl, rfl, inner⟩ | ⟨_, _, _, _, shape, _⟩ :=
      grown.eq_or_inside
    · rfl
    · cases shape
      rw [Shape.violations_record ((Value.allEmpty_eq_false_iff others).mp (grown.isEmpty filled)),
        Shape.violations_record ((Value.allEmpty_eq_false_iff members).mp filled)]
      exact inside path members others (visible.inspected rfl (.inr filled)) there inner
    · cases shape
  entry := by
    intro path value other inspected there grown
    obtain rfl | ⟨_, members, others, shape, rfl, rfl, inner⟩ | ⟨_, _, _, _, shape, _⟩ :=
      grown.eq_or_inside
    · rfl
    · cases shape
      exact inside path members others (inspected.opened rfl) there inner
    · cases shape

theorem Field.entriesViolations_alike {item : Field} (inside : item.ReportsAlike form model more)
    {path : Path} {entries others : List Value}
    (within : ∀ (position : Nat) (entry : Value), entries[position]? = some entry →
      Inspected form model (path.entry position) (.entry item entry))
    (there : (Value.record more).at? path = some (.list others))
    (each : List.Forall₂ item.Extends entries others) :
    item.entriesViolations path others = item.entriesViolations path entries := by
  refine entriesViolations_congr each.length_eq.symm fun position other entry here held => ?_
  obtain ⟨again, found, inner⟩ := Field.Extends.getElem? each held
  rw [here, Option.some.injEq] at found
  subst found
  have reached := (Value.at?_entry there position).trans here
  exact inside.entry _ entry other (within position entry held) reached inner

theorem Field.reportsAlike_list (title : String) (readOnly : Bool) {item : Field} (dynamic : Bool)
    (inside : item.ReportsAlike form model more) :
    Field.ReportsAlike ⟨title, readOnly, .list item dynamic⟩ form model more where
  held := by
    intro path value other visible there grown filled
    obtain rfl | ⟨_, _, _, shape, _⟩ | ⟨_, _, entries, others, shape, rfl, rfl, each⟩ :=
      grown.eq_or_inside
    · rfl
    · cases shape
    · cases shape
      refine entriesViolations_alike inside (fun position entry held => ?_) there each
      cases visible with
      | member within declared editable holds =>
          exact .listed within declared editable rfl holds held
      | entry inspected => exact .nested inspected rfl held
  entry := by
    intro path value other inspected there grown
    obtain rfl | ⟨_, _, _, shape, _⟩ | ⟨_, _, entries, others, shape, rfl, rfl, each⟩ :=
      grown.eq_or_inside
    · rfl
    · cases shape
    · cases shape
      exact entriesViolations_alike inside (fun position entry held => .nested inspected rfl held)
        there each

theorem Schema.reportsAlike (distinct : form.isDistinct = true)
    (quiet : AwakensQuietly form model more) (schema : Schema) :
    schema.ReportsAlike form model more :=
  (Schema.descent (·.ReportsAlike form model more) (·.ReportsAlike form model more)
    (fun _ => Schema.reportsAlike_of_fields distinct quiet) Field.reportsAlike_scalar
    (fun title readOnly _ => Field.reportsAlike_composite title readOnly)
    (fun title readOnly _ dynamic => Field.reportsAlike_list title readOnly dynamic)).1 schema

/-- A record that awakes is reported on as it then is, and before that only as missing. -/
theorem Awakened.allBelow {path : Path} {required : Bool} {below : Schema} {others : Record}
    (distinct : form.isDistinct = true) (grown : form.Extends model more)
    (awakened : Awakened form model more path required below others) :
    (∃ title, Violation.allBelow (model.violations form) path =
      if required then [⟨path, .required title⟩] else []) ∧
    Violation.allBelow (more.violations form) path =
      (others.violations below).map (under path) := by
  obtain @⟨path, schema, below, record, members, others, name, field, within, declared, editable,
    shape, held, blank, there, filled⟩ := awakened
  have full := (Value.allEmpty_eq_false_iff others).mp filled
  constructor
  · refine ⟨field.title, ?_⟩
    rw [within.allBelow_child distinct declared, held,
      Schema.allBelow_orderViolations (by rw [held]; rfl), List.append_nil]
    cases schema.required.contains name with
    | true =>
        refine Field.violations_required editable ?_
        rintro _ ⟨⟩
        exact blank
    | false =>
        refine Field.violations_unfilled editable ?_
        rintro _ ⟨⟩
        exact ⟨blank, rfl⟩
  · obtain ⟨_, reached, outer⟩ := within.extended distinct grown
    obtain ⟨record, rfl, _⟩ := outer.of_record
    have stands : Members.get? record name = some (.record others) :=
      (Value.at?_child reached.at?_eq name).symm.trans there
    exact Record.allBelow_record distinct (reached.part declared editable shape stands full)

/-- What awakes unasked for or with something wrong shows in the report. -/
theorem awakensQuietly_of_same (distinct : form.isDistinct = true) (grown : form.Extends model more)
    (same : more.violations form = model.violations form) : AwakensQuietly form model more := by
  intro path required below others awakened
  obtain ⟨⟨title, before⟩, after⟩ := awakened.allBelow distinct grown
  rw [same, before] at after
  cases required with
  | true =>
      -- the report about a record never speaks of the record itself
      have own : ⟨path, .required title⟩ ∈ (others.violations below).map (under path) := by
        rw [← after]
        exact List.mem_singleton_self _
      rw [← Schema.violations_at] at own
      obtain ⟨name, further⟩ := reportsBelow.1 below path others _ own
      have longer := further.length_le
      rw [Path.length_child] at longer
      exact absurd longer (Nat.not_succ_le_self _)
  | false =>
      refine ⟨rfl, ?_⟩
      rw [Record.isValid, List.isEmpty_iff]
      exact List.map_eq_nil_iff.mp after.symm

end Quiet

namespace Record

/-- Members that the schema knows nothing of leave the report as it is, but for a member record in
which they are all that is filled in: it is no longer missing, if it was required, and is reported
on as it then is. -/
theorem violations_extended (form : Schema) (distinct : form.isDistinct = true)
    (model more : Record) (grown : form.Extends model more) :
    more.violations form = model.violations form ↔
      ∀ path required below others, Awakened form model more path required below others →
        required = false ∧ others.isValid below = true := by
  refine ⟨awakensQuietly_of_same distinct grown, fun quiet => ?_⟩
  exact Schema.reportsAlike distinct quiet form [] model more .form (Value.at?_nil _) grown

section Comment

/-- A filter whose mask was typed in wrong, and whatever else it holds. -/
def markedFilter (others : Record) : Record := ("mask", .notANumber) :: others

def markedSource (others : Record) : Record := [("ip_filter", .record (markedFilter others))]

/-- A policy with one rule, and nothing but such a filter in the source of the rule. -/
def markedPolicy (others : Record) : Record :=
  [("name", .text "p"), ("traffic_rules", .list [.record
    [("priority", .int 1), ("source", .record (markedSource others))]])]

def comment : Record := [("comment", .text "x")]

theorem markedPolicy_extends :
    Schema.trafficPolicy.Extends (markedPolicy []) (markedPolicy comment) := by
  have filter : (Field.composite "IP Filter" .ipFilter).Extends
      (.record (markedFilter [])) (.record (markedFilter comment)) :=
    .kept (Schema.memberExtends_of_field rfl (Schema.extends_refl.2 _ _))
      (.extra _ (by decide) .done)
  have source : (Field.composite "Source" (.trafficSelector "Source")).Extends
      (.record (markedSource [])) (.record (markedSource comment)) :=
    .kept (Schema.memberExtends_of_field rfl filter) .done
  have rules : Field.Extends (.list "Traffic Rules" (.composite "Traffic Rule" .trafficRule))
      (.list [.record [("priority", .int 1), ("source", .record (markedSource []))]])
      (.list [.record [("priority", .int 1), ("source", .record (markedSource comment))]]) := by
    refine List.Forall₂.cons (.kept ?_ (.kept ?_ .done)) .nil
    · exact Schema.memberExtends_of_field rfl (Schema.extends_refl.2 _ _)
    · exact Schema.memberExtends_of_field rfl source
  exact .kept (Schema.memberExtends_of_field rfl (Schema.extends_refl.2 _ _))
    (.kept (Schema.memberExtends_of_field rfl rules) .done)

/-- A comment in a filter that nobody filled in brings its malformed mask to light. -/
theorem markedPolicy_violations :
    Schema.trafficPolicy.isDistinct = true ∧
      Schema.trafficPolicy.Extends (markedPolicy []) (markedPolicy comment) ∧
      (markedPolicy comment).violations .trafficPolicy ≠
        (markedPolicy []).violations .trafficPolicy := by
  have distinct : Schema.trafficPolicy.isDistinct = true := by decide
  have rules : ("traffic_rules", .list "Traffic Rules" (.composite "Traffic Rule" .trafficRule)) ∈
      Schema.trafficPolicy.fields := List.mem_of_getElem? (i := 2) rfl
  have source : ("source", .composite "Source" (.trafficSelector "Source")) ∈
      Schema.trafficRule.fields := List.mem_of_getElem? (i := 2) rfl
  have rule : Inspected .trafficPolicy (markedPolicy []) [.field "traffic_rules", .index 0]
      (.record .trafficRule [("priority", .int 1), ("source", .record (markedSource []))]) :=
    .opened (.listed .form rules rfl rfl rfl rfl) rfl
  have awakened : Awakened .trafficPolicy (markedPolicy []) (markedPolicy comment)
      [.field "traffic_rules", .index 0, .field "source"] false (.trafficSelector "Source")
      (markedSource comment) := .member rule source rfl rfl rfl rfl rfl rfl
  refine ⟨distinct, markedPolicy_extends, fun same => ?_⟩
  have quiet := (violations_extended .trafficPolicy distinct _ _ markedPolicy_extends).mp same
  have valid := (quiet _ _ _ _ awakened).2
  revert valid
  decide

end Comment

section Contact

/-- A person has to have a contact. -/
def contactForm : Schema :=
  (Schema.empty "Person").withRequired "contact"
    (.composite "Contact" ((Schema.empty "Contact").withField "phone" (.string "Phone")))

/-- An empty contact is missing; with a member that the schema does not declare it is not. -/
theorem contact_awakes :
    ¬∀ (form : Schema) (model more : Record), form.isDistinct = true → form.Extends model more →
      more.violations form = model.violations form := by
  intro alike
  have contact : (Field.composite "Contact"
      ((Schema.empty "Contact").withField "phone" (.string "Phone"))).Extends
      (.record []) (.record [("note", .text "x")]) := .extra _ (by decide) .done
  have grown : contactForm.Extends [("contact", .record [])]
      [("contact", .record [("note", .text "x")])] :=
    .kept (Schema.memberExtends_of_field rfl contact) .done
  have same := alike contactForm _ _ (by decide) grown
  revert same
  decide

end Contact

end Record

end ResourceEditor
