import ResourceEditor.Proofs.Validation.Locality
import ResourceEditor.Schema.Catalog
/-
This file shows that validation reports exactly what is due, and how often: nothing about a field
twice, and each order rule that is broken once.
-/

namespace ResourceEditor

open Violation

/-- The violations that are not of order rules. -/
def Violation.ofFields (violations : List Violation) : List Violation :=
  violations.filter fun violation => !violation.cause.isAbove

/-- The violations of the order rules of the record at a path. -/
def Violation.ofOrders (violations : List Violation) (path : Path) : List Violation :=
  violations.filter fun violation =>
    violation.cause.isAbove && decide (violation.path.dropLast = path)

theorem Violation.ofFields_append (first second : List Violation) :
    ofFields (first ++ second) = ofFields first ++ ofFields second :=
  List.filter_append ..

theorem Violation.ofFields_nodup {violations : List Violation} (distinct : violations.Nodup) :
    (ofFields violations).Nodup :=
  distinct.filter _

theorem Violation.ofFields_eq_nil {violations : List Violation}
    (orders : ∀ violation ∈ violations, violation.cause.isAbove = true) :
    ofFields violations = [] := by
  rw [ofFields, List.filter_eq_nil_iff]
  intro violation member
  rw [orders violation member]
  exact Bool.false_ne_true

theorem Schema.isAbove_of_mem {schema : Schema} {path : Path} {record : Record}
    {violation : Violation} (reported : violation ∈ schema.orderViolations path record) :
    violation.cause.isAbove = true := by
  obtain ⟨rule, _, _, rfl⟩ := Schema.mem_orderViolations.mp reported
  rfl

/-- Parts with keys of their own that report at places of their own report nothing twice. -/
theorem Violation.ofFields_flatMap {α κ : Type} {parts : List α} {report : α → List Violation}
    (key : α → κ) (place : κ → Path) (distinct : (parts.map key).Nodup)
    (apart : ∀ first second full, place first <+: full → place second <+: full → first = second)
    (below : ∀ part ∈ parts, ∀ violation ∈ report part, place (key part) <+: violation.path)
    (each : ∀ part ∈ parts, (ofFields (report part)).Nodup) :
    (ofFields (parts.flatMap report)).Nodup := by
  rw [ofFields, List.filter_flatMap, List.nodup_flatMap]
  refine ⟨each, ?_⟩
  have keys : parts.Pairwise fun first second => key first ≠ key second :=
    List.pairwise_map.mp distinct
  refine keys.imp_of_mem ?_
  intro first second firstThere secondThere different violation one other
  refine different (apart _ _ violation.path ?_ ?_)
  · exact below first firstThere violation (List.mem_of_mem_filter one)
  · exact below second secondThere violation (List.mem_of_mem_filter other)

theorem ScalarRule.violations_nodup (rule : ScalarRule) (title : String) (path : Path)
    (value : Value) : (rule.violations title path value).Nodup := by
  refine (rule.causes_nodup title value).map ?_
  intro first second same
  exact congrArg Violation.cause same

/-- Nothing is reported twice about a field, where a record holds a value for it and where a list
has an entry for it. -/
def Field.ReportsOnce (field : Field) : Prop :=
  field.isDistinct = true → ∀ path value,
    (ofFields (field.shape.violations field.title path value)).Nodup ∧
      (ofFields (field.entryViolations path value)).Nodup

def Schema.ReportsOnce (schema : Schema) : Prop :=
  schema.isDistinct = true → ∀ path record, (ofFields (schema.violations path record)).Nodup

theorem Field.violations_once {field : Field} (once : field.ReportsOnce)
    (distinct : field.isDistinct = true) (required : Bool) (path : Path) (held : Option Value) :
    (ofFields (field.violations required path held)).Nodup := by
  obtain nothing | ⟨_, _, _, only⟩ | ⟨value, _, _, _, all⟩ :=
    field.violations_cases required path held
  · rw [nothing]
    exact List.nodup_nil
  · rw [only]
    exact ofFields_nodup (List.nodup_singleton _)
  · rw [all]
    exact (once distinct path value).1

theorem Schema.reportsOnce_of_fields {schema : Schema}
    (fields : ∀ pair ∈ schema.fields, pair.2.ReportsOnce) : schema.ReportsOnce := by
  intro distinct path record
  obtain ⟨names, inside⟩ := schema.isDistinct_iff.mp distinct
  have orders : ofFields (schema.orderViolations path record) = [] :=
    ofFields_eq_nil fun violation => Schema.isAbove_of_mem
  rw [Schema.violations_eq, ofFields_append, orders, List.append_nil]
  refine ofFields_flatMap Prod.fst path.child names ?_ ?_ ?_
  · intro first second full
    exact Path.child_eq
  · intro pair _ violation
    exact Field.prefix_of_mem
  · intro pair declared
    exact Field.violations_once (fields pair declared) (inside pair declared) _ _ _

theorem Field.reportsOnce_scalar (title : String) (readOnly : Bool) (rule : ScalarRule) :
    Field.ReportsOnce ⟨title, readOnly, .scalar rule⟩ := by
  intro _ path value
  refine ⟨ofFields_nodup (rule.violations_nodup title path value), ?_⟩
  rw [Field.entryViolations_eq, Shape.entryViolations]
  split
  · exact List.nodup_nil
  · exact ofFields_nodup (rule.violations_nodup title path value)

theorem Field.reportsOnce_composite (title : String) (readOnly : Bool) {below : Schema}
    (inside : below.ReportsOnce) : Field.ReportsOnce ⟨title, readOnly, .composite below⟩ := by
  intro distinct path value
  obtain other | ⟨members, rfl⟩ := value.record?_cases
  · rw [Shape.violations_notObject other, Field.entryViolations_eq,
      Shape.entryViolations_notObject other]
    exact ⟨ofFields_nodup (List.nodup_singleton _), ofFields_nodup (List.nodup_singleton _)⟩
  · refine ⟨?_, inside distinct path members⟩
    dsimp only [Shape.violations]
    split
    · exact List.nodup_nil
    · exact inside distinct path members

theorem Field.reportsOnce_list (title : String) (readOnly : Bool) {item : Field} (dynamic : Bool)
    (inside : item.ReportsOnce) : Field.ReportsOnce ⟨title, readOnly, .list item dynamic⟩ := by
  intro distinct path value
  have entriesOnce (entries : List Value) :
      (ofFields (item.entriesViolations path entries)).Nodup := by
    have positions : (entries.zipIdx.map Prod.snd).Nodup := by
      rw [List.zipIdx_map_snd]
      exact List.nodup_range'
    refine ofFields_flatMap Prod.snd path.entry positions ?_ ?_ ?_
    · intro first second full
      exact Path.entry_eq
    · intro pair _
      exact (reportsBelow.2 item _ _).2
    · intro pair _
      exact (inside distinct _ _).2
  obtain other | ⟨entries, rfl⟩ := value.list?_cases
  · rw [Shape.violations_notList other, Field.entryViolations_eq,
      Shape.entryViolations_notList other]
    exact ⟨ofFields_nodup (List.nodup_singleton _), ofFields_nodup (List.nodup_singleton _)⟩
  · exact ⟨entriesOnce entries, entriesOnce entries⟩

theorem reportsOnce : (∀ schema : Schema, schema.ReportsOnce) ∧
    ∀ field : Field, field.ReportsOnce :=
  Schema.descent Schema.ReportsOnce Field.ReportsOnce (fun _ => Schema.reportsOnce_of_fields)
    Field.reportsOnce_scalar (fun title readOnly _ => Field.reportsOnce_composite title readOnly)
    (fun title readOnly _ dynamic => Field.reportsOnce_list title readOnly dynamic)

/-- An order rule that is broken inside a field is reported below the field. -/
theorem Field.length_lt_of_isAbove {field : Field} {required : Bool} {path : Path}
    {held : Option Value} {violation : Violation}
    (reported : violation ∈ field.violations required path held)
    (above : violation.cause.isAbove = true) : path.length < violation.path.length := by
  obtain ⟨title, readOnly, shape⟩ := field
  obtain ⟨_, ⟨_, _, rfl⟩ | ⟨value, _, _, reported⟩⟩ := Field.mem_violations reported
  · cases above
  cases shape with
  | scalar rule =>
      have found := (ScalarRule.mem_violations.mp reported).2
      have misfit : Misfit ⟨title, readOnly, .scalar rule⟩ value violation.cause :=
        ScalarRule.misfit_of_mem_causes rfl found
      rw [ScalarRule.isAbove_of_misfit misfit] at above
      cases above
  | composite below =>
      obtain other | ⟨members, rfl⟩ := value.record?_cases
      · rw [Shape.violations_notObject other, List.mem_singleton] at reported
        subst reported
        cases above
      · dsimp only [Shape.violations] at reported
        split at reported
        · cases reported
        · obtain ⟨name, further⟩ := reportsBelow.1 below path members violation reported
          have longer := further.length_le
          rw [Path.length_child] at longer
          omega
  | list item dynamic =>
      obtain other | ⟨entries, rfl⟩ := value.list?_cases
      · rw [Shape.violations_notList other, List.mem_singleton] at reported
        subst reported
        cases above
      · obtain ⟨position, entry, _, reported⟩ := Field.mem_entriesViolations.mp reported
        have longer := ((reportsBelow.2 item _ entry).2 violation reported).length_le
        rw [Path.length_entry] at longer
        omega

theorem Schema.ofOrders_violations (schema : Schema) (path : Path) (record : Record) :
    ofOrders (schema.violations path record) path = schema.orderViolations path record := by
  have fields : ofOrders (schema.fieldViolations path record) path = [] := by
    rw [ofOrders, List.filter_eq_nil_iff]
    intro violation reported isOrder
    rw [Bool.and_eq_true, decide_eq_true_iff] at isOrder
    obtain ⟨above, here⟩ := isOrder
    obtain ⟨name, field, _, reported⟩ := Schema.mem_fieldViolations.mp reported
    have longer := Field.length_lt_of_isAbove reported above
    have short := congrArg List.length here
    rw [List.length_dropLast] at short
    rw [Path.length_child] at longer
    omega
  have orders : ofOrders (schema.orderViolations path record) path =
      schema.orderViolations path record := by
    rw [ofOrders, List.filter_eq_self]
    intro violation reported
    obtain ⟨rule, _, _, rfl⟩ := Schema.mem_orderViolations.mp reported
    simp [OrderRule.violation, Cause.isAbove]
  have split : ofOrders (schema.fieldViolations path record ++ schema.orderViolations path record)
      path = ofOrders (schema.fieldViolations path record) path ++
        ofOrders (schema.orderViolations path record) path := List.filter_append ..
  rw [Schema.violations_eq, split, fields, orders, List.nil_append]

/-- The order rules of a record are reported below its path. -/
theorem Violation.ofOrders_allBelow (violations : List Violation) (path : Path) :
    ofOrders (allBelow violations path) path = ofOrders violations path := by
  rw [ofOrders, allBelow, List.filter_filter]
  apply List.filter_congr
  intro violation _
  by_cases here : violation.path.dropLast = path
  · have below : path <+: violation.path := here ▸ List.dropLast_prefix _
    rw [List.isPrefixOf_iff_prefix.mpr below, Bool.and_true]
  · simp [here]

namespace Record

/-- Validation reports what is due and nothing else. Where the names of a record are distinct, it
reports a violation of a field once and a broken order rule as often as the schema asks for it, of
a read-only field nothing, and of a blank one at most that it is required. -/
theorem violations_exact (form : Schema) (model : Record) :
    (∀ violation, violation ∈ model.violations form ↔ Due form model violation) ∧
      (form.isDistinct = true →
        (ofFields (model.violations form)).Nodup ∧
        ∀ path schema record, Inspected form model path (.record schema record) →
          ofOrders (model.violations form) path = schema.orderViolations path record ∧
          ∀ name field, (name, field) ∈ schema.fields →
            (field.readOnly = true →
              ofFields (allBelow (model.violations form) (path.child name)) = []) ∧
            (field.readOnly = false → name ∈ schema.required → record.IsBlankAt name →
              allBelow (model.violations form) (path.child name) =
                [⟨path.child name, .required field.title⟩]) ∧
            (field.readOnly = false → name ∉ schema.required →
              (∀ value, Members.get? record name = some value →
                value.isEmpty = true ∧ value.isNaN = false) →
              allBelow (model.violations form) (path.child name) = [])) := by
  refine ⟨fun violation => mem_violations_iff, ?_⟩
  intro distinct
  refine ⟨reportsOnce.1 form distinct [] model, ?_⟩
  intro path schema record inspected
  constructor
  · rw [← ofOrders_allBelow, inspected.allBelow_eq distinct]
    exact schema.ofOrders_violations path record
  intro name field declared
  have whole := inspected.allBelow_child distinct declared
  have unread (blank : record.IsBlankAt name) :
      (Members.get? record name).bind Value.integer? = none := by
    cases held : Members.get? record name with
    | none => rfl
    | some value => exact Value.integer?_of_isEmpty (blank value held)
  refine ⟨?_, ?_, ?_⟩
  · intro readOnly
    rw [whole, Field.violations_readOnly readOnly, List.nil_append]
    apply ofFields_eq_nil
    intro violation reported
    exact Schema.isAbove_of_mem (mem_allBelow.mp reported).1
  · intro editable required blank
    rw [whole, Schema.allBelow_orderViolations (unread blank), List.append_nil,
      List.contains_iff_mem.mpr required]
    exact Field.violations_required editable blank
  · intro editable optional blank
    have empty : record.IsBlankAt name := fun value held => (blank value held).1
    have optional : schema.required.contains name = false := by
      simpa using optional
    rw [whole, Schema.allBelow_orderViolations (unread empty), List.append_nil, optional]
    exact Field.violations_unfilled editable blank

section Ports

def portsFilter : Record := [("begin_port", .int 90), ("end_port", .int 80)]

def portsSource : Record := [("ip_filter", .record portsFilter)]

def portsRule : Record := [("source", .record portsSource)]

/-- A policy with one rule, which lacks its priority and has its ports the wrong way round. -/
def portsPolicy : Record := [("name", .text "Ports"), ("traffic_rules", .list [.record portsRule])]

def portsRulePath : Path := [.field "traffic_rules", .index 0]

def portsFilterPath : Path := (portsRulePath.child "source").child "ip_filter"

theorem portsRule_inspected :
    Inspected .trafficPolicy portsPolicy portsRulePath (.record .trafficRule portsRule) := by
  have declared :
      ("traffic_rules", .list "Traffic Rules" (.composite "Traffic Rule" .trafficRule)) ∈
        Schema.trafficPolicy.fields := List.mem_of_getElem? (i := 2) rfl
  have held : Members.get? portsPolicy "traffic_rules" = some (.list [.record portsRule]) := rfl
  have there : [Value.record portsRule][0]? = some (.record portsRule) := rfl
  exact .opened (.listed .form declared rfl rfl held there) rfl

theorem portsFilter_inspected :
    Inspected .trafficPolicy portsPolicy portsFilterPath (.record .ipFilter portsFilter) := by
  have source : ("source", .composite "Source" (.trafficSelector "Source")) ∈
      Schema.trafficRule.fields := List.mem_of_getElem? (i := 2) rfl
  have filter : ("ip_filter", .composite "IP Filter" .ipFilter) ∈
      (Schema.trafficSelector "Source").fields := List.mem_of_getElem? (i := 2) rfl
  have selector : Inspected .trafficPolicy portsPolicy (portsRulePath.child "source")
      (.record (.trafficSelector "Source") portsSource) :=
    portsRule_inspected.part source rfl rfl rfl
      ⟨("ip_filter", .record portsFilter), List.mem_singleton_self _, rfl⟩
  exact selector.part filter rfl rfl rfl ⟨("begin_port", .int 90), List.mem_cons_self, rfl⟩

theorem ports_violations_exact :
    Schema.trafficPolicy.isDistinct = true ∧
      ofOrders (portsPolicy.violations .trafficPolicy) portsFilterPath =
        [⟨portsFilterPath.child "begin_port", .above "Begin Port" "End Port"⟩] ∧
      allBelow (portsPolicy.violations .trafficPolicy) (portsRulePath.child "priority") =
        [⟨portsRulePath.child "priority", .required "Priority"⟩] ∧
      allBelow (portsPolicy.violations .trafficPolicy) (portsFilterPath.child "mask") = [] ∧
      ofFields (allBelow (portsPolicy.violations .trafficPolicy) [.field "id"]) = [] := by
  have distinct : Schema.trafficPolicy.isDistinct = true := by decide
  have reported := (violations_exact .trafficPolicy portsPolicy).2 distinct
  obtain ⟨orders, inFilter⟩ := reported.2 portsFilterPath _ _ portsFilter_inspected
  have inRule := (reported.2 portsRulePath _ _ portsRule_inspected).2
  have inPolicy := (reported.2 [] _ _ .form).2
  refine ⟨distinct, orders, ?_, ?_, ?_⟩
  · refine (inRule "priority" _ (List.mem_of_getElem? (i := 1) rfl)).2.1 rfl (by decide) ?_
    intro value held
    cases held
  · refine (inFilter "mask" _ (List.mem_of_getElem? (i := 1) rfl)).2.2 rfl (by decide) ?_
    intro value held
    cases held
  · exact (inPolicy "id" _ (List.mem_of_getElem? (i := 0) rfl)).1 rfl

end Ports

end Record

end ResourceEditor
