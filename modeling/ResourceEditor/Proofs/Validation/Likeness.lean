import ResourceEditor.Proofs.Validation.Places
import ResourceEditor.Proofs.Value.Likeness
/-
This file shows that validation does not tell forms apart that look the same: the report is one, in
whatever order the members of their records came up.
-/

namespace ResourceEditor

variable {path : Path}

/-- Records that look the same have one report. -/
def Schema.TellsNoneApart (schema : Schema) : Prop :=
  ∀ path members others, (Value.record members).Alike (.record others) →
    schema.violations path members = schema.violations path others

/-- Values that look the same have one report, where they are filled in and where they are list
entries. -/
structure Field.TellsNoneApart (field : Field) : Prop where
  held : ∀ path value other, Value.Alike value other →
    field.shape.violations field.title path value = field.shape.violations field.title path other
  entry : ∀ path value other, Value.Alike value other →
    field.entryViolations path value = field.entryViolations path other

theorem Field.violations_alike {field : Field} (inside : field.TellsNoneApart) (required : Bool)
    {held found : Option Value} (alike : Option.Rel Value.Alike held found) :
    field.violations required path held = field.violations required path found := by
  cases alike with
  | none => rfl
  | some alike =>
      have same := inside.held path _ _ alike
      obtain ⟨title, readOnly, shape⟩ := field
      rw [Field.violations, Field.violations, alike.isEmpty_eq, alike.isUnfilled_eq, same]

theorem Schema.orderViolations_alike (schema : Schema) {members others : Record}
    (alike : (Value.record members).Alike (.record others)) :
    schema.orderViolations path members = schema.orderViolations path others := by
  rw [orderViolations, orderViolations]
  congr 1
  refine List.filter_congr fun rule asked => ?_
  rw [OrderRule.isBroken, OrderRule.isBroken, alike.integer?_eq, alike.integer?_eq]

theorem Schema.tellsNoneApart_of_fields {schema : Schema}
    (fields : ∀ pair ∈ schema.fields, pair.2.TellsNoneApart) : schema.TellsNoneApart := by
  intro path members others alike
  rw [violations_eq, violations_eq, schema.orderViolations_alike alike]
  congr 1
  exact List.flatMap_congr fun pair declared =>
    Field.violations_alike (fields pair declared) _ (alike.member pair.1)

theorem ScalarRule.violations_same (rule : ScalarRule) (title : String) {value other : Value}
    (same : value.Same other) :
    rule.violations title path value = rule.violations title path other := by
  cases same <;> rfl

theorem Field.tellsNoneApart_scalar (title : String) (readOnly : Bool) (rule : ScalarRule) :
    Field.TellsNoneApart ⟨title, readOnly, .scalar rule⟩ where
  held path value other alike := rule.violations_same title alike.same
  entry := by
    intro path value other alike
    rw [entryViolations, entryViolations, Shape.entryViolations, Shape.entryViolations,
      alike.isUnfilled_eq, rule.violations_same title alike.same]

theorem Field.tellsNoneApart_composite (title : String) (readOnly : Bool) {below : Schema}
    (inside : below.TellsNoneApart) :
    Field.TellsNoneApart ⟨title, readOnly, .composite below⟩ where
  held := by
    intro path value other alike
    have filled := alike.isEmpty_eq
    cases alike.same with
    | @record members others names each =>
        rw [Value.isEmpty, Value.isEmpty] at filled
        rw [Shape.violations, Shape.violations, filled, inside path members others alike]
    | _ => rfl
  entry := by
    intro path value other alike
    cases alike.same with
    | @record members others names each => exact inside path members others alike
    | _ => rfl

theorem Field.entriesViolations_same {item : Field} (inside : item.TellsNoneApart)
    {entries others : List Value} (alike : (Value.list entries).Alike (.list others)) :
    item.entriesViolations path entries = item.entriesViolations path others :=
  entriesViolations_congr alike.same.length_eq fun _ entry other there here =>
    inside.entry _ entry other (alike.entry there here)

theorem Field.tellsNoneApart_list (title : String) (readOnly : Bool) {item : Field} (dynamic : Bool)
    (inside : item.TellsNoneApart) :
    Field.TellsNoneApart ⟨title, readOnly, .list item dynamic⟩ where
  held := by
    intro path value other alike
    cases alike.same with
    | @list entries others length each => exact entriesViolations_same inside alike
    | _ => rfl
  entry := by
    intro path value other alike
    cases alike.same with
    | @list entries others length each => exact entriesViolations_same inside alike
    | _ => rfl

theorem Schema.tellsNoneApart (schema : Schema) : schema.TellsNoneApart :=
  (Schema.descent Schema.TellsNoneApart Field.TellsNoneApart
    (fun _ => Schema.tellsNoneApart_of_fields) Field.tellsNoneApart_scalar
    (fun title readOnly _ => Field.tellsNoneApart_composite title readOnly)
    (fun title readOnly _ dynamic => Field.tellsNoneApart_list title readOnly dynamic)).1 schema

end ResourceEditor
