import ResourceEditor.Schema.Basic
/-
This file holds the induction over schemas that lie inside one another, and the schemas in which no
record has two fields of one name.
-/

namespace ResourceEditor

/-- A property of schemas and one of fields hold everywhere if they pass on from what lies
inside. -/
theorem Schema.descent (onSchema : Schema → Prop) (onField : Field → Prop)
    (record : ∀ schema, (∀ pair ∈ schema.fields, onField pair.2) → onSchema schema)
    (scalar : ∀ title readOnly rule, onField ⟨title, readOnly, .scalar rule⟩)
    (composite : ∀ title readOnly schema, onSchema schema →
      onField ⟨title, readOnly, .composite schema⟩)
    (list : ∀ title readOnly item dynamic, onField item →
      onField ⟨title, readOnly, .list item dynamic⟩) :
    (∀ schema, onSchema schema) ∧ ∀ field, onField field := by
  have inside (schema : Schema) : onSchema schema ∧ ∀ pair ∈ schema.fields, onField pair.2 := by
    refine @Schema.rec (fun schema => onSchema schema ∧ ∀ pair ∈ schema.fields, onField pair.2)
      onField (fun shape => ∀ title readOnly, onField ⟨title, readOnly, shape⟩)
      (fun fields => ∀ pair ∈ fields, onField pair.2) (fun pair => onField pair.2)
      ?_ ?_ ?_ ?_ ?_ ?_ ?_ ?_ schema
    · intro title fields required orders each
      exact ⟨record _ each, each⟩
    · intro title readOnly shape held
      exact held title readOnly
    · intro rule title readOnly
      exact scalar title readOnly rule
    · intro below held title readOnly
      exact composite title readOnly below held.1
    · intro item dynamic held title readOnly
      exact list title readOnly item dynamic held
    · exact List.forall_mem_nil _
    · intro pair rest first others
      exact List.forall_mem_cons.mpr ⟨first, others⟩
    · intro name field held
      exact held
  exact ⟨fun schema => (inside schema).1,
    fun field => (inside ⟨"", [("", field)], [], []⟩).2 ("", field) List.mem_cons_self⟩

mutual

/-- In no record of the schema two fields have one name. -/
def Schema.isDistinct : Schema → Bool
  | ⟨_, fields, _, _⟩ => decide (Members.names fields).Nodup && Schema.areDistinct fields

def Schema.areDistinct : List (String × Field) → Bool
  | [] => true
  | (_, field) :: rest => field.isDistinct && Schema.areDistinct rest

def Field.isDistinct : Field → Bool
  | ⟨_, _, shape⟩ => shape.isDistinct

def Shape.isDistinct : Shape → Bool
  | .scalar _ => true
  | .composite schema => schema.isDistinct
  | .list item _ => item.isDistinct

end

theorem Schema.areDistinct_iff (fields : List (String × Field)) :
    Schema.areDistinct fields = true ↔ ∀ pair ∈ fields, pair.2.isDistinct = true := by
  induction fields with
  | nil => simp [Schema.areDistinct]
  | cons pair rest ih => simp [Schema.areDistinct, ih]

theorem Schema.isDistinct_iff (schema : Schema) :
    schema.isDistinct = true ↔
      (Members.names schema.fields).Nodup ∧ ∀ pair ∈ schema.fields, pair.2.isDistinct = true := by
  obtain ⟨title, fields, required, orders⟩ := schema
  rw [Schema.isDistinct, Bool.and_eq_true, decide_eq_true_iff, Schema.areDistinct_iff]

theorem Field.isDistinct_eq (field : Field) : field.isDistinct = field.shape.isDistinct := by
  obtain ⟨title, readOnly, shape⟩ := field
  rfl

theorem Schema.isDistinct_shape {schema : Schema} (distinct : schema.isDistinct = true)
    {name : String} {field : Field} (declared : (name, field) ∈ schema.fields) :
    field.shape.isDistinct = true := by
  rw [← Field.isDistinct_eq]
  exact (schema.isDistinct_iff.mp distinct).2 _ declared

theorem Schema.isDistinct_of_field? {schema : Schema} {name : String} {field : Field}
    (distinct : schema.isDistinct = true) (declared : schema.field? name = some field) :
    field.isDistinct = true :=
  (schema.isDistinct_iff.mp distinct).2 _ (Members.mem_of_get? declared)

end ResourceEditor
