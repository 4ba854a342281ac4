import ResourceEditor.Validation.Basic
/-
This file says what a form must be like, place by place: which places are looked at, what can be
wrong with a value there, and so which violations are due.
-/

namespace ResourceEditor

/-- What is looked at: a record under its schema, or a list entry under its description. -/
inductive Place where
  | record (schema : Schema) (members : Record)
  | entry (item : Field) (value : Value)

/-- The places of a form that are looked at. A record within a record is one of them when something
in it is filled in, a record in a list always. -/
inductive Inspected (form : Schema) (model : Record) : Path → Place → Prop where
  | form : Inspected form model [] (.record form model)
  | part {path : Path} {schema below : Schema} {record members : Record} {name : String}
      {field : Field} (within : Inspected form model path (.record schema record))
      (declared : (name, field) ∈ schema.fields) (editable : field.readOnly = false)
      (shape : field.shape = .composite below)
      (held : Members.get? record name = some (.record members))
      (filled : ∃ member ∈ members, member.2.isEmpty = false) :
      Inspected form model (path.child name) (.record below members)
  | listed {path : Path} {schema : Schema} {record : Record} {name : String} {field item : Field}
      {dynamic : Bool} {entries : List Value} {position : Nat} {entry : Value}
      (within : Inspected form model path (.record schema record))
      (declared : (name, field) ∈ schema.fields) (editable : field.readOnly = false)
      (shape : field.shape = .list item dynamic)
      (held : Members.get? record name = some (.list entries))
      (there : entries[position]? = some entry) :
      Inspected form model ((path.child name).entry position) (.entry item entry)
  | nested {path : Path} {item inner : Field} {dynamic : Bool} {entries : List Value}
      {position : Nat} {entry : Value}
      (within : Inspected form model path (.entry item (.list entries)))
      (shape : item.shape = .list inner dynamic) (there : entries[position]? = some entry) :
      Inspected form model (path.entry position) (.entry inner entry)
  | opened {path : Path} {item : Field} {below : Schema} {members : Record}
      (within : Inspected form model path (.entry item (.record members)))
      (shape : item.shape = .composite below) :
      Inspected form model path (.record below members)

/-- What is wrong with a value by its description alone. -/
inductive Misfit (field : Field) (value : Value) : Cause → Prop where
  | notSingle {rule : ScalarRule} (shape : field.shape = .scalar rule)
      (nested : value.isScalar = false) : Misfit field value (.notSingle field.title)
  | notObject {schema : Schema} (shape : field.shape = .composite schema)
      (other : value.record? = none) : Misfit field value (.notObject field.title)
  | notList {item : Field} {dynamic : Bool} (shape : field.shape = .list item dynamic)
      (other : value.list? = none) : Misfit field value (.notList field.title)
  | notANumber {rule : ScalarRule} (shape : field.shape = .scalar rule)
      (kind : rule.kind = .number) (single : value.isScalar = true)
      (malformed : value.integer? = none) : Misfit field value (.notANumber field.title)
  | outOfRange {rule : ScalarRule} {number : Int64} (shape : field.shape = .scalar rule)
      (kind : rule.kind = .number) (read : value.integer? = some number)
      (outside : (∃ minimum ∈ rule.minimum, number < minimum) ∨
        ∃ maximum ∈ rule.maximum, maximum < number) :
      Misfit field value (.outOfRange field.title rule.minimum rule.maximum)
  | pattern {rule : ScalarRule} {text : String} {pattern : Pattern}
      (shape : field.shape = .scalar rule) (kind : rule.kind ≠ .number)
      (rendered : value.text? = some text) (asked : rule.pattern = some pattern)
      (fails : pattern.isMatch text = false) : Misfit field value (.pattern pattern)
  | notAllowed {rule : ScalarRule} {text : String} (shape : field.shape = .scalar rule)
      (kind : rule.kind ≠ .number) (rendered : value.text? = some text)
      (asked : rule.allowed ≠ []) (other : text ∉ rule.allowed) :
      Misfit field value (.notAllowed field.title rule.allowed)

/-- Both fields hold integers, and the first one's is above the second one's. -/
def OrderRule.isBroken (rule : OrderRule) (record : Record) : Bool :=
  ((Members.get? record rule.lower).bind Value.integer?).any fun low =>
    ((Members.get? record rule.upper).bind Value.integer?).any fun high => high < low

def OrderRule.violation (rule : OrderRule) (schema : Schema) (path : Path) : Violation :=
  ⟨path.child rule.lower,
    .above (titleOf schema.fields rule.lower) (titleOf schema.fields rule.upper)⟩

/-- What the order rules of a record report, one after the other. -/
def Schema.orderViolations (schema : Schema) (path : Path) (record : Record) : List Violation :=
  (schema.orders.filter (·.isBroken record)).map (·.violation schema path)

/-- A record holds nothing for a name, or an empty value. -/
def Record.IsBlankAt (record : Record) (name : String) : Prop :=
  ∀ value, Members.get? record name = some value → value.isEmpty = true

/-- The violations that are due for a form. -/
inductive Due (form : Schema) (model : Record) : Violation → Prop where
  | required {path : Path} {schema : Schema} {record : Record} {name : String} {field : Field}
      (within : Inspected form model path (.record schema record))
      (declared : (name, field) ∈ schema.fields) (editable : field.readOnly = false)
      (required : name ∈ schema.required) (blank : record.IsBlankAt name) :
      Due form model ⟨path.child name, .required field.title⟩
  | held {path : Path} {schema : Schema} {record : Record} {name : String} {field : Field}
      {value : Value} {cause : Cause}
      (within : Inspected form model path (.record schema record))
      (declared : (name, field) ∈ schema.fields) (editable : field.readOnly = false)
      (held : Members.get? record name = some value)
      (filled : value.isEmpty = false ∨ (value.isNaN = true ∧ name ∉ schema.required))
      (misfit : Misfit field value cause) : Due form model ⟨path.child name, cause⟩
  | entry {path : Path} {item : Field} {value : Value} {cause : Cause}
      (within : Inspected form model path (.entry item value))
      (filled : item.scalar?.isSome = true → value.isEmpty = false ∨ value.isNaN = true)
      (misfit : Misfit item value cause) : Due form model ⟨path, cause⟩
  | order {path : Path} {schema : Schema} {record : Record} {rule : OrderRule}
      (within : Inspected form model path (.record schema record))
      (asked : rule ∈ schema.orders) (broken : rule.isBroken record = true) :
      Due form model (rule.violation schema path)

end ResourceEditor
