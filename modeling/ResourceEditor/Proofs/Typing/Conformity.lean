import ResourceEditor.Proofs.Edit.Route
import ResourceEditor.Proofs.Schema.Nesting
import ResourceEditor.Proofs.Value.Distinct
import ResourceEditor.Schema.Blank
/-
This file says which values have the shape that a field declares, and shows that every value that a
form starts from or grows by does.
-/

namespace ResourceEditor

/-- A value has the shape that a field declares, all the way down. More can be asked of each record
and its schema. -/
inductive Value.Conforms (asked : Schema → Record → Prop) : Field → Value → Prop where
  | number {field : Field} {rule : ScalarRule} (shape : field.shape = .scalar rule)
      (kind : rule.kind = .number) (value : Number) : Conforms asked field (.number value)
  | text {field : Field} {rule : ScalarRule} (shape : field.shape = .scalar rule)
      (kind : rule.kind ≠ .number) (content : String) : Conforms asked field (.text content)
  | record {field : Field} {schema : Schema} {members : Record}
      (shape : field.shape = .composite schema) (meets : asked schema members)
      (each : ∀ name inner value, schema.field? name = some inner →
        Members.get? members name = some value → Conforms asked inner value) :
      Conforms asked field (.record members)
  | list {field item : Field} {dynamic : Bool} {entries : List Value}
      (shape : field.shape = .list item dynamic)
      (each : ∀ entry ∈ entries, Conforms asked item entry) :
      Conforms asked field (.list entries)

namespace Value.Conforms

variable {asked : Schema → Record → Prop} {field : Field} {value : Value}

theorem of_composite {schema : Schema} (conforms : value.Conforms asked field)
    (shape : field.shape = .composite schema) :
    ∃ members, value = .record members ∧ asked schema members ∧
      ∀ name inner held, schema.field? name = some inner →
        Members.get? members name = some held → held.Conforms asked inner := by
  cases conforms with
  | record again meets each =>
      rw [shape, Shape.composite.injEq] at again
      subst again
      exact ⟨_, rfl, meets, each⟩
  | _ again =>
      rw [shape] at again
      cases again

theorem whole {schema : Schema} {members : Record}
    (conforms : (Value.record members).Conforms asked field)
    (shape : field.shape = .composite schema) :
    (Value.record members).Conforms asked schema.whole := by
  obtain ⟨_, same, meets, each⟩ := conforms.of_composite shape
  cases same
  exact .record rfl meets each

theorem of_scalar {rule : ScalarRule} (conforms : value.Conforms asked field)
    (shape : field.shape = .scalar rule) :
    (rule.kind = .number ∧ ∃ number, value = .number number) ∨
      rule.kind ≠ .number ∧ ∃ content, value = .text content := by
  cases conforms with
  | number again kind number =>
      rw [shape, Shape.scalar.injEq] at again
      exact .inl ⟨again ▸ kind, number, rfl⟩
  | text again kind content =>
      rw [shape, Shape.scalar.injEq] at again
      exact .inr ⟨again ▸ kind, content, rfl⟩
  | _ again =>
      rw [shape] at again
      cases again

theorem isScalar {rule : ScalarRule} (conforms : value.Conforms asked field)
    (shape : field.shape = .scalar rule) : value.isScalar = true := by
  obtain ⟨_, number, rfl⟩ | ⟨_, content, rfl⟩ := conforms.of_scalar shape <;> rfl

theorem of_list {item : Field} {dynamic : Bool} (conforms : value.Conforms asked field)
    (shape : field.shape = .list item dynamic) :
    ∃ entries, value = .list entries ∧ ∀ entry ∈ entries, entry.Conforms asked item := by
  cases conforms with
  | list again each =>
      rw [shape, Shape.list.injEq] at again
      obtain ⟨rfl, _⟩ := again
      exact ⟨_, rfl, each⟩
  | _ again =>
      rw [shape] at again
      cases again

/-- A value of the right shape stays one when less is asked of its records. -/
theorem mono {other : Schema → Record → Prop}
    (weaker : ∀ schema record, asked schema record → other schema record)
    (conforms : value.Conforms asked field) : value.Conforms other field := by
  induction conforms with
  | number shape kind number => exact .number shape kind number
  | text shape kind content => exact .text shape kind content
  | record shape meets _ ih => exact .record shape (weaker _ _ meets) ih
  | list shape _ ih => exact .list shape ih

end Value.Conforms

/-- Every declared field that a form holds a value for has a value of its shape, at every depth. -/
def Record.IsTyped (schema : Schema) (model : Record) : Prop :=
  (Value.record model).Conforms (fun _ _ => True) schema.whole

/-- What fresh records have and keep when a declared member is set that can be edited. -/
structure Upheld (asked : Schema → Record → Prop) : Prop where
  fresh : ∀ schema start, schema.isDistinct = true → asked schema (schema.startRecord start)
  set : ∀ schema record name field value, asked schema record → schema.field? name = some field →
    field.readOnly = false → asked schema (Members.set record name value)

namespace Schema

variable {start : Start} {fields : List (String × Field)}

theorem mem_startMembers {name : String} {value : Value} :
    (name, value) ∈ startMembers start fields ↔
      ∃ field, (name, field) ∈ fields ∧ field.readOnly = false ∧
        field.startValue start = some value := by
  induction fields with
  | nil => simp [startMembers]
  | cons pair rest ih =>
      obtain ⟨first, field⟩ := pair
      have others : (∃ other, (name, other) ∈ (first, field) :: rest ∧ other.readOnly = false ∧
          other.startValue start = some value) ↔
          (name = first ∧ field.readOnly = false ∧ field.startValue start = some value) ∨
            (name, value) ∈ startMembers start rest := by
        rw [ih]
        simp only [List.mem_cons, Prod.mk.injEq, or_and_right, exists_or, and_assoc]
        simp
      rw [others, startMembers]
      split
      next readOnly => simp [readOnly]
      next editable =>
        cases held : field.startValue start with
        | none => simp
        | some own => simp [eq_false_of_ne_true editable, eq_comm]

theorem names_startMembers_sublist :
    (Members.names (startMembers start fields)).Sublist (Members.names fields) := by
  induction fields with
  | nil => exact List.Sublist.refl _
  | cons pair rest ih =>
      obtain ⟨first, field⟩ := pair
      rw [startMembers]
      split
      · exact ih.cons first
      · cases field.startValue start with
        | none => exact ih.cons first
        | some own => exact ih.cons_cons first

theorem startRecord_eq (schema : Schema) (start : Start) :
    schema.startRecord start = startMembers start schema.fields := by
  obtain ⟨title, fields, required, orders⟩ := schema
  rw [startRecord]

/-- A fresh record holds the start value of its field under each name. -/
theorem startValue_of_get? {schema : Schema} {name : String} {field : Field} {value : Value}
    (distinct : schema.isDistinct = true) (declared : schema.field? name = some field)
    (held : Members.get? (schema.startRecord start) name = some value) :
    field.startValue start = some value := by
  rw [startRecord_eq] at held
  obtain ⟨other, there, _, starts⟩ := mem_startMembers.mp (Members.mem_of_get? held)
  have same : schema.field? name = some other :=
    Members.get?_of_mem (schema.isDistinct_iff.mp distinct).1 there
  rw [declared, Option.some.injEq] at same
  exact same ▸ starts

end Schema

namespace Field

/-- Whatever a field starts with, as a member or as an entry, has the shape of the field. -/
structure StartsTyped (asked : Schema → Record → Prop) (field : Field) : Prop where
  entry : ∀ start, (field.startEntry start).Conforms asked field
  member : ∀ start value, field.startValue start = some value → value.Conforms asked field

end Field

section Start

variable {asked : Schema → Record → Prop}

theorem ScalarRule.startsTyped (title : String) (readOnly : Bool) (rule : ScalarRule) :
    Field.StartsTyped asked ⟨title, readOnly, .scalar rule⟩ := by
  obtain ⟨kind, minimum, maximum, pattern, allowed, default⟩ := rule
  cases kind with
  | number =>
      constructor
      · intro start
        exact .number rfl rfl (.int 0)
      · intro start value starts
        cases start <;> cases starts
        exact .number rfl rfl (.int 0)
  | _ =>
      constructor
      · intro start
        exact .text rfl ScalarKind.noConfusion _
      · intro start value starts
        cases start <;> cases starts <;> exact .text rfl ScalarKind.noConfusion _

theorem Field.startsTyped_list (title : String) (readOnly : Bool) {item : Field} (dynamic : Bool)
    (inside : item.StartsTyped asked) :
    Field.StartsTyped asked ⟨title, readOnly, .list item dynamic⟩ := by
  have fresh : (Value.list (if dynamic then [item.startEntry .template] else [])).Conforms asked
      ⟨title, readOnly, .list item dynamic⟩ := by
    refine .list rfl ?_
    intro entry member
    cases dynamic with
    | false => cases member
    | true =>
        cases List.mem_singleton.mp member
        exact inside.entry .template
  constructor
  · intro start
    exact fresh
  · intro start value starts
    cases starts
    exact fresh

/-- Every start value of a field has the shape of the field. -/
theorem Field.startsTyped (upheld : Upheld asked) (field : Field)
    (distinct : field.isDistinct = true) : field.StartsTyped asked := by
  refine (Schema.descent (fun schema => schema.isDistinct = true → ∀ start name inner value,
      schema.field? name = some inner →
      Members.get? (schema.startRecord start) name = some value → value.Conforms asked inner)
    (fun field => field.isDistinct = true → field.StartsTyped asked) ?_ ?_ ?_ ?_).2 field distinct
  · intro schema each distinct start name inner value declared held
    have inner := Schema.isDistinct_of_field? distinct declared
    have starts := each _ (Members.mem_of_get? declared) inner
    exact starts.member start value (Schema.startValue_of_get? distinct declared held)
  · intro title readOnly rule _
    exact rule.startsTyped title readOnly
  · intro title readOnly schema inside distinct
    constructor
    · intro start
      exact .record rfl (upheld.fresh schema start distinct) (inside distinct start)
    · intro start value starts
      cases starts
  · intro title readOnly item dynamic inside distinct
    exact Field.startsTyped_list title readOnly dynamic (inside distinct)

end Start

/-- A record holds one value for each name at most, and only for fields that can be edited. -/
def Record.IsOwn (schema : Schema) (record : Record) : Prop :=
  (Members.names record).Nodup ∧ ∀ name ∈ Members.names record,
    ∃ field, schema.field? name = some field ∧ field.readOnly = false

theorem upheld_isOwn : Upheld Record.IsOwn where
  fresh := by
    intro schema start distinct
    have names := (schema.isDistinct_iff.mp distinct).1
    rw [Schema.startRecord_eq]
    refine ⟨Schema.names_startMembers_sublist.nodup names, ?_⟩
    intro name member
    obtain ⟨pair, there, rfl⟩ := List.mem_map.mp member
    obtain ⟨field, declared, editable, _⟩ := Schema.mem_startMembers.mp there
    exact ⟨field, Members.get?_of_mem names declared, editable⟩
  set := by
    intro schema record name field value own declared editable
    refine ⟨Members.nodup_names_set name value own.1, ?_⟩
    intro other member
    rw [Members.names_set] at member
    split at member
    next => exact own.2 other member
    next =>
      obtain there | last := List.mem_append.mp member
      · exact own.2 other there
      · rw [List.mem_singleton.mp last]
        exact ⟨field, declared, editable⟩

/-- In a value in which each record holds its own fields only, no two members have one name. -/
theorem Value.Conforms.isDistinct {field : Field} {value : Value}
    (conforms : value.Conforms Record.IsOwn field) : value.isDistinct = true := by
  induction conforms with
  | number => rfl
  | text => rfl
  | record shape own _ ih =>
      refine (Value.isDistinct_record _).mpr ⟨own.1, fun pair member => ?_⟩
      obtain ⟨inner, declared, _⟩ := own.2 pair.1 (List.mem_map.mpr ⟨pair, member, rfl⟩)
      exact ih pair.1 inner pair.2 declared (Members.get?_of_mem own.1 member)
  | list shape _ ih => exact (Value.isDistinct_list _).mpr ih

end ResourceEditor
