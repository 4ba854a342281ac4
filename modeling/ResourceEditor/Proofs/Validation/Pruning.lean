import ResourceEditor.Proofs.Validation.Places
import ResourceEditor.Proofs.Value.Distinct
import ResourceEditor.Proofs.Value.Pruned
import ResourceEditor.Schema.Catalog
/-
This file compares the violations of a form with those of what is left of it when it is sent: they
are the same, but for those of the malformed numbers that are left out.
-/

namespace ResourceEditor

namespace Violation

/-- Whether a violation speaks of the mark for malformed numbers as what a record holds. -/
def isOfMark (model : Record) (violation : Violation) : Bool :=
  violation.cause.kindName != "required" && violation.path.lastField?.isSome &&
    (model.at? violation.path).any Value.isNaN

def withoutMarks (model : Record) (violations : List Violation) : List Violation :=
  violations.filter fun violation => !violation.isOfMark model

variable {model : Record} {violations : List Violation}

theorem withoutMarks_eq_self (other : ∀ violation ∈ violations, violation.isOfMark model = false) :
    withoutMarks model violations = violations := by
  rw [withoutMarks, List.filter_eq_self]
  intro violation member
  rw [other violation member]
  rfl

theorem withoutMarks_eq_nil (marks : ∀ violation ∈ violations, violation.isOfMark model = true) :
    withoutMarks model violations = [] := by
  rw [withoutMarks, List.filter_eq_nil_iff]
  intro violation member
  rw [marks violation member]
  simp

theorem withoutMarks_flatMap {α : Type} (parts : List α) (report : α → List Violation) :
    withoutMarks model (parts.flatMap report) =
      parts.flatMap fun part => withoutMarks model (report part) :=
  List.filter_flatMap

theorem withoutMarks_required (path : Path) (title : String) :
    withoutMarks model [⟨path, .required title⟩] = [⟨path, .required title⟩] := by
  refine withoutMarks_eq_self ?_
  simp [isOfMark, Cause.kindName]

/-- What is said of a value that is no mark is not about a mark. -/
theorem isOfMark_of_isNaN {violation : Violation} {value : Value}
    (there : (Value.record model).at? violation.path = some value) (number : value.isNaN = false) :
    violation.isOfMark model = false := by
  rw [isOfMark]
  cases named : violation.path.lastField? with
  | none => simp
  | some name =>
      have some : violation.path ≠ [] := by
        intro none
        rw [none] at named
        cases named
      simp [model.at?_of_ne_nil some, there, number]

theorem isOfMark_of_lastField? {violation : Violation}
    (unnamed : violation.path.lastField? = none) : violation.isOfMark model = false := by
  rw [isOfMark, unnamed]
  simp

end Violation

open Violation

section Marks

variable {model : Record} {path : Path} {value : Value}

theorem Value.at?_child {members : Record} (there : value.at? path = some (.record members))
    (name : String) : value.at? (path.child name) = Members.get? members name := by
  rw [Path.child, at?_append, there]
  simp

theorem Value.at?_entry {entries : List Value} (there : value.at? path = some (.list entries))
    (position : Nat) : value.at? (path.entry position) = entries[position]? := by
  rw [Path.entry, at?_append, there]
  simp

theorem Misfit.kindName_ne_required {field : Field} {cause : Cause}
    (misfit : Misfit field value cause) : cause.kindName ≠ "required" := by
  cases misfit <;> simp [Cause.kindName]

/-- All that is said of a mark for its field is about the mark. -/
theorem Field.withoutMarks_mark {name : String} (field : Field)
    (there : (Value.record model).at? (path.child name) = some value) (mark : value.isNaN = true) :
    withoutMarks model (field.shape.violations field.title (path.child name) value) = [] := by
  have held : (model.at? (path.child name)).any Value.isNaN = true := by
    rw [model.at?_of_ne_nil (by simp [Path.child]), there]
    exact mark
  obtain ⟨number, rfl⟩ : ∃ number, value = .number number := by
    cases value with
    | number number => exact ⟨number, rfl⟩
    | _ => cases mark
  refine withoutMarks_eq_nil ?_
  intro violation reported
  have said : violation.path = path.child name ∧ violation.cause.kindName ≠ "required" := by
    cases shape : field.shape with
    | scalar rule =>
        rw [shape] at reported
        obtain ⟨here, found⟩ := ScalarRule.mem_violations.mp reported
        exact ⟨here, (ScalarRule.misfit_of_mem_causes shape found).kindName_ne_required⟩
    | composite schema =>
        rw [shape, Shape.violations_notObject rfl, List.mem_singleton] at reported
        subst reported
        exact ⟨rfl, by simp [Cause.kindName]⟩
    | list item dynamic =>
        rw [shape, Shape.violations_notList rfl, List.mem_singleton] at reported
        subst reported
        exact ⟨rfl, by simp [Cause.kindName]⟩
  rw [isOfMark, said.1, held]
  simp [said.2]

end Marks

/-- Below a record that is pruned, the violations of marks go and the others stay. -/
def Schema.PrunesExactly (model : Record) (schema : Schema) : Prop :=
  ∀ path record, (Value.record model).at? path = some (.record record) →
    (Value.record record).isDistinct = true →
    schema.violations path (Value.pruneMembers record) =
      withoutMarks model (schema.violations path record)

/-- What is said of a value for its field is said of what is left of it, but for the violations of
marks, where the value is a filled-in member and where it is a list entry. -/
structure Field.PrunesExactly (model : Record) (field : Field) : Prop where
  held : ∀ path value, (Value.record model).at? path = some value → value.isDistinct = true →
    value.isNaN = false → value.isEmpty = false →
    field.shape.violations field.title path value.pruneEntry =
      withoutMarks model (field.shape.violations field.title path value)
  entry : ∀ path value, (Value.record model).at? path = some value → value.isDistinct = true →
    path.lastField? = none →
    field.entryViolations path value.pruneEntry =
      withoutMarks model (field.entryViolations path value)

section Prune

variable {model : Record} {path : Path}

/-- A member reports the same when it is pruned, but for the violations of marks. -/
theorem Field.violations_prune {field : Field} (exact : field.PrunesExactly model) (required : Bool)
    {name : String} {held : Option Value}
    (there : (Value.record model).at? (path.child name) = held)
    (distinct : ∀ value, held = some value → value.isDistinct = true) :
    field.violations required (path.child name) (held.bind Value.prune) =
      withoutMarks model (field.violations required (path.child name) held) := by
  by_cases locked : field.readOnly = true
  · rw [violations_readOnly locked, violations_readOnly locked]
    rfl
  have editable : field.readOnly = false := eq_false_of_ne_true locked
  -- of an empty member it only counts whether it is required, and its mark is all that can go
  by_cases blank : ∀ value, held = some value → value.isEmpty = true
  · have still : ∀ kept, held.bind Value.prune = some kept →
        kept.isEmpty = true ∧ kept.isNaN = false := by
      intro kept left
      obtain ⟨value, rfl, stays⟩ := Option.bind_eq_some_iff.mp left
      obtain ⟨rfl, number⟩ := Value.eq_of_prune stays
      rw [value.isEmpty_pruneEntry.1, value.isNaN_pruneEntry]
      exact ⟨blank value rfl, number⟩
    cases required with
    | true =>
        rw [violations_required editable fun kept left => (still kept left).1,
          violations_required editable blank, withoutMarks_required]
    | false =>
        rw [violations_unfilled editable still]
        by_cases marked : ∃ value, held = some value ∧ value.isNaN = true
        · obtain ⟨value, rfl, mark⟩ := marked
          rw [violations_filled editable (.inr ⟨mark, rfl⟩), withoutMarks_mark field there mark]
        · rw [violations_unfilled editable]
          · rfl
          · intro value same
            exact ⟨blank value same, eq_false_of_ne_true fun mark => marked ⟨value, same, mark⟩⟩
  · simp only [not_forall] at blank
    obtain ⟨value, rfl, full⟩ := blank
    have filled : value.isEmpty = false := eq_false_of_ne_true full
    have stays : value.prune = some value.pruneEntry := Value.prune_of_isEmpty filled
    have left : value.pruneEntry.isEmpty = false := value.isEmpty_pruneEntry.1.trans filled
    rw [Option.bind_some, stays, violations_filled editable (.inl left),
      violations_filled editable (.inl filled)]
    exact exact.held _ value there (distinct value rfl) (Value.eq_of_prune stays).2 filled

/-- An order rule is broken by a form just when it is by what is left of it. -/
theorem OrderRule.isBroken_prune (rule : OrderRule) {record : Record}
    (distinct : (Members.names record).Nodup) :
    rule.isBroken (Value.pruneMembers record) = rule.isBroken record := by
  have same (name : String) :
      (Members.get? (Value.pruneMembers record) name).bind Value.integer? =
        (Members.get? record name).bind Value.integer? := by
    rw [Value.get?_pruneMembers distinct]
    cases Members.get? record name with
    | none => rfl
    | some value =>
        obtain gone | ⟨stays, _⟩ := value.prune_cases
        · have none : value.integer? = none :=
            Value.integer?_of_isEmpty (value.isEmpty_pruneEntry.2 gone)
          simp [gone, none]
        · simp [stays, value.integer?_pruneEntry]
  rw [isBroken, isBroken, same, same]

theorem Schema.orderViolations_prune (schema : Schema) {record : Record}
    (there : (Value.record model).at? path = some (.record record))
    (distinct : (Members.names record).Nodup) :
    schema.orderViolations path (Value.pruneMembers record) =
      withoutMarks model (schema.orderViolations path record) := by
  have same : schema.orderViolations path (Value.pruneMembers record) =
      schema.orderViolations path record := by
    rw [orderViolations, orderViolations]
    simp only [OrderRule.isBroken_prune _ distinct]
  rw [same, withoutMarks_eq_self]
  intro violation reported
  obtain ⟨rule, _, broken, rfl⟩ := mem_orderViolations.mp reported
  obtain ⟨low, read, _⟩ := (Option.any_eq_true _ _).mp broken
  obtain ⟨value, held, integer⟩ := Option.bind_eq_some_iff.mp read
  refine isOfMark_of_isNaN ((Value.at?_child there rule.lower).trans held) ?_
  cases value with
  | number number =>
      cases number with
      | int _ => rfl
      | notANumber => cases integer
  | _ => rfl

theorem Schema.prunesExactly_of_fields {schema : Schema}
    (fields : ∀ pair ∈ schema.fields, pair.2.PrunesExactly model) : schema.PrunesExactly model := by
  intro path record there distinct
  obtain ⟨names, each⟩ := (Value.isDistinct_record record).mp distinct
  rw [violations_eq, violations_eq, withoutMarks, List.filter_append, ← withoutMarks,
    ← withoutMarks, orderViolations_prune schema there names]
  congr 1
  rw [fieldViolations, fieldViolations, withoutMarks_flatMap]
  refine List.flatMap_congr fun pair declared => ?_
  rw [Value.get?_pruneMembers names]
  refine Field.violations_prune (fields pair declared) _ (Value.at?_child there pair.1) ?_
  intro value held
  exact each _ (Members.mem_of_get? held)

theorem ScalarRule.violations_prune (rule : ScalarRule) (title : String) (value : Value) :
    rule.violations title path value.pruneEntry = rule.violations title path value := by
  cases value with
  | record members => rw [Value.pruneEntry_record]; rfl
  | list entries => rw [Value.pruneEntry_list]; rfl
  | _ => rw [Value.pruneEntry_of_isScalar rfl]

theorem Field.prunesExactly_scalar (title : String) (readOnly : Bool) (rule : ScalarRule) :
    Field.PrunesExactly model ⟨title, readOnly, .scalar rule⟩ where
  held := by
    intro path value there distinct number filled
    rw [Shape.violations, Shape.violations, rule.violations_prune, withoutMarks_eq_self]
    intro violation reported
    obtain ⟨rfl, _⟩ := ScalarRule.mem_violations.mp reported
    exact isOfMark_of_isNaN there number
  entry := by
    intro path value there distinct unnamed
    rw [entryViolations_eq, entryViolations_eq, Shape.entryViolations, Shape.entryViolations,
      rule.violations_prune, Value.isUnfilled, Value.isUnfilled, value.isEmpty_pruneEntry.1,
      value.isNaN_pruneEntry, withoutMarks_eq_self]
    intro violation reported
    split at reported
    · cases reported
    · obtain ⟨rfl, _⟩ := ScalarRule.mem_violations.mp reported
      exact isOfMark_of_lastField? unnamed

/-- The one violation of a value at a place stays where the value is no mark or no member. -/
theorem withoutMarks_single {value : Value} (cause : Cause)
    (there : (Value.record model).at? path = some value)
    (other : value.isNaN = false ∨ path.lastField? = none) :
    withoutMarks model [⟨path, cause⟩] = [⟨path, cause⟩] := by
  refine withoutMarks_eq_self (List.forall_mem_singleton.mpr ?_)
  obtain number | unnamed := other
  · have here : (Value.record model).at? (⟨path, cause⟩ : Violation).path = some value := there
    exact isOfMark_of_isNaN here number
  · exact isOfMark_of_lastField? unnamed

theorem Field.prunesExactly_composite (title : String) (readOnly : Bool) {below : Schema}
    (inside : below.PrunesExactly model) :
    Field.PrunesExactly model ⟨title, readOnly, .composite below⟩ where
  held := by
    intro path value there distinct number filled
    obtain other | ⟨members, rfl⟩ := value.record?_cases
    · have still : value.pruneEntry.record? = none := by rw [value.record?_pruneEntry, other]; rfl
      rw [Shape.violations_notObject other, Shape.violations_notObject still,
        withoutMarks_single _ there (.inl number)]
    · have left : (Value.record members).pruneEntry.isEmpty = false :=
        (Value.record members).isEmpty_pruneEntry.1.trans filled
      rw [Value.pruneEntry_record] at left ⊢
      rw [Shape.violations_record ((Value.allEmpty_eq_false_iff members).mp filled),
        Shape.violations_record ((Value.allEmpty_eq_false_iff _).mp left)]
      exact inside path members there distinct
  entry := by
    intro path value there distinct unnamed
    rw [entryViolations_eq, entryViolations_eq]
    obtain other | ⟨members, rfl⟩ := value.record?_cases
    · have still : value.pruneEntry.record? = none := by rw [value.record?_pruneEntry, other]; rfl
      rw [Shape.entryViolations_notObject other, Shape.entryViolations_notObject still,
        withoutMarks_single _ there (.inr unnamed)]
    · rw [Value.pruneEntry_record]
      exact inside path members there distinct

theorem Field.entriesViolations_prune {item : Field} (inside : item.PrunesExactly model)
    {entries : List Value} (there : (Value.record model).at? path = some (.list entries))
    (distinct : (Value.list entries).isDistinct = true) :
    item.entriesViolations path (entries.map Value.pruneEntry) =
      withoutMarks model (item.entriesViolations path entries) := by
  rw [entriesViolations, entriesViolations, withoutMarks_flatMap, List.zipIdx_map, List.flatMap_map]
  refine List.flatMap_congr ?_
  rintro ⟨entry, position⟩ member
  have held : entries[position]? = some entry := List.mk_mem_zipIdx_iff_getElem?.mp member
  exact inside.entry _ entry ((Value.at?_entry there position).trans held)
    ((Value.isDistinct_list entries).mp distinct entry (List.mem_of_getElem? held))
    (Path.lastField?_entry path position)

theorem Field.prunesExactly_list (title : String) (readOnly : Bool) {item : Field} (dynamic : Bool)
    (inside : item.PrunesExactly model) :
    Field.PrunesExactly model ⟨title, readOnly, .list item dynamic⟩ where
  held := by
    intro path value there distinct number filled
    obtain other | ⟨entries, rfl⟩ := value.list?_cases
    · have still : value.pruneEntry.list? = none := by rw [value.list?_pruneEntry, other]; rfl
      rw [Shape.violations_notList other, Shape.violations_notList still,
        withoutMarks_single _ there (.inl number)]
    · rw [Value.pruneEntry_list]
      exact entriesViolations_prune inside there distinct
  entry := by
    intro path value there distinct unnamed
    rw [entryViolations_eq, entryViolations_eq]
    obtain other | ⟨entries, rfl⟩ := value.list?_cases
    · have still : value.pruneEntry.list? = none := by rw [value.list?_pruneEntry, other]; rfl
      rw [Shape.entryViolations_notList other, Shape.entryViolations_notList still,
        withoutMarks_single _ there (.inr unnamed)]
    · rw [Value.pruneEntry_list]
      exact entriesViolations_prune inside there distinct

theorem Schema.prunesExactly (model : Record) (schema : Schema) : schema.PrunesExactly model :=
  (Schema.descent (·.PrunesExactly model) (·.PrunesExactly model)
    (fun _ => Schema.prunesExactly_of_fields) Field.prunesExactly_scalar
    (fun title readOnly _ => Field.prunesExactly_composite title readOnly)
    (fun title readOnly _ dynamic => Field.prunesExactly_list title readOnly dynamic)).1 schema

end Prune

namespace Record

/-- What is left of a form when it is sent has the violations of the form, in their order, without
those of the marks that records hold. -/
theorem violations_pruned (schema : Schema) (model : Record) (distinct : model.isDistinct = true) :
    model.pruned.violations schema =
        (model.violations schema).filter (fun violation => !violation.isOfMark model) ∧
      (model.isValid schema = true → model.pruned.isValid schema = true) := by
  have same : model.pruned.violations schema = withoutMarks model (model.violations schema) :=
    schema.prunesExactly model [] model (Value.at?_nil _) distinct
  refine ⟨same, fun valid => ?_⟩
  rw [isValid, List.isEmpty_iff] at valid ⊢
  rw [same, valid]
  rfl

/-- A port that was typed in wrong beside a protocol that is not there. -/
def malformedPort : Record := [("port", .notANumber), ("protocol", .text "icmp")]

theorem malformedPort_violations_pruned :
    malformedPort.isDistinct = true ∧
      malformedPort.violations .portEntry =
        [⟨[.field "port"], .notANumber "Port"⟩,
          ⟨[.field "protocol"], .notAllowed "Protocol" portProtocolNames⟩] ∧
      malformedPort.pruned.violations .portEntry =
        [⟨[.field "protocol"], .notAllowed "Protocol" portProtocolNames⟩] := by
  have distinct : malformedPort.isDistinct = true := by decide
  have before : malformedPort.violations .portEntry =
      [⟨[.field "port"], .notANumber "Port"⟩,
        ⟨[.field "protocol"], .notAllowed "Protocol" portProtocolNames⟩] := rfl
  refine ⟨distinct, before, ?_⟩
  rw [(violations_pruned .portEntry malformedPort distinct).1, before]
  rfl

end Record

end ResourceEditor
