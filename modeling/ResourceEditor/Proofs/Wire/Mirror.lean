import ResourceEditor.Proofs.Wire.Agreement
import ResourceEditor.Proofs.Wire.Soundness
/-
This file compares schemas with wire layouts by their fields alone: whether both have the same ones,
each of the same kind.
-/

namespace ResourceEditor

def Layout.isText : Layout → Bool
  | .text => true
  | _ => false

/-- Whether the scalars of a rule are of the kind that a layout takes. -/
def ScalarRule.mirrors (rule : ScalarRule) : Layout → Bool
  | .text => rule.kind != .number
  | .choice _ => rule.kind != .number
  | .unsigned _ => rule.kind == .number
  | _ => false

mutual

/-- Whether a layout has the fields of a schema and no others, each of the same kind. -/
def Schema.mirrors : Schema → RecordLayout → Bool
  | ⟨_, fields, _, _⟩, layout =>
      layout.fields.all (fun wire => Members.has fields wire.name) &&
        Schema.fieldsMirror layout fields

def Schema.fieldsMirror (layout : RecordLayout) : List (String × Field) → Bool
  | [] => true
  | (name, field) :: rest =>
      (layout.field? name).any (fun wire => field.mirrors wire.layout) &&
        Schema.fieldsMirror layout rest

/-- A read-only field, which nothing is asked of, has to be a plain text. -/
def Field.mirrors : Field → Layout → Bool
  | ⟨_, readOnly, shape⟩, layout => shape.mirrors layout && (!readOnly || layout.isText)

def Shape.mirrors : Shape → Layout → Bool
  | .scalar rule, layout => rule.mirrors layout
  | .composite schema, .record layout => schema.mirrors layout
  | .list item _, .list inner => item.mirrors inner
  | _, _ => false

end

/-- Each resource has the same fields in its schema and on the wire. -/
theorem Resource.mirrors (resource : Resource) :
    resource.schema.mirrors resource.layout = true := by
  cases resource <;> decide

/-- Only an empty list stands for a missing list, and nothing for a missing record. -/
theorem Presence.isEmpty_default {presence : Presence} {layout : Layout} {value : Value}
    {shape : Shape} (suits : presence.suits layout = true)
    (own : presence.default? = some value) (mirrors : shape.mirrors layout = true)
    (nested : ∀ rule, shape ≠ .scalar rule) : value.isEmpty = true := by
  have inner : (∃ item, layout = .list item) ∨ ∃ below, layout = .record below := by
    cases shape with
    | scalar rule => exact absurd rfl (nested rule)
    | _ =>
        cases layout with
        | list item => exact .inl ⟨item, rfl⟩
        | record below => exact .inr ⟨below, rfl⟩
        | _ => cases mirrors
  cases presence with
  | default other =>
      cases own
      obtain ⟨item, rfl⟩ | ⟨below, rfl⟩ := inner
      · match value, suits with
        | .list [], _ => rfl
      · simp [Presence.suits] at suits
  | _ => cases own

theorem Field.mirrors_iff (field : Field) (layout : Layout) :
    field.mirrors layout = true ↔
      field.shape.mirrors layout = true ∧ (field.readOnly = true → layout.isText = true) := by
  obtain ⟨title, readOnly, shape⟩ := field
  rw [Field.mirrors, Bool.and_eq_true]
  cases readOnly <;> simp

namespace Schema

variable {schema : Schema} {layout : RecordLayout}

theorem fieldsMirror_iff (fields : List (String × Field)) :
    fieldsMirror layout fields = true ↔ ∀ pair ∈ fields, ∃ wire,
      layout.field? pair.1 = some wire ∧ pair.2.mirrors wire.layout = true := by
  induction fields with
  | nil => simp [fieldsMirror]
  | cons pair rest ih =>
      rw [fieldsMirror, Bool.and_eq_true, ih, List.forall_mem_cons, Option.any_eq_true]

/-- Each declared field has its place on the wire. -/
theorem wire_of_mirrors (mirrors : schema.mirrors layout = true) {name : String} {field : Field}
    (declared : schema.field? name = some field) :
    ∃ wire ∈ layout.fields, wire.name = name ∧ layout.field? name = some wire ∧
      field.mirrors wire.layout = true := by
  obtain ⟨title, fields, required, orders⟩ := schema
  rw [Schema.mirrors, Bool.and_eq_true, fieldsMirror_iff] at mirrors
  obtain ⟨wire, found, same⟩ := mirrors.2 _ (Members.mem_of_get? declared)
  obtain ⟨member, named⟩ := RecordLayout.mem_of_field? found
  exact ⟨wire, member, named, found, same⟩

/-- Each place on the wire is that of a declared field. -/
theorem field_of_mirrors (mirrors : schema.mirrors layout = true) (unique : layout.names.Nodup)
    {wire : WireField} (known : wire ∈ layout.fields) :
    ∃ field, schema.field? wire.name = some field ∧ field.mirrors wire.layout = true := by
  have has : ∃ field, schema.field? wire.name = some field := by
    obtain ⟨title, fields, required, orders⟩ := schema
    rw [Schema.mirrors, Bool.and_eq_true, List.all_eq_true] at mirrors
    exact Option.isSome_iff_exists.mp (mirrors.1 wire known)
  obtain ⟨field, declared⟩ := has
  obtain ⟨other, _, _, found, same⟩ := wire_of_mirrors mirrors declared
  rw [RecordLayout.field?_of_mem unique known, Option.some.injEq] at found
  exact ⟨field, declared, found ▸ same⟩

end Schema

/-- A schema and a layout speak of the same records: what is valid by the schema has a place in the
layout, and the names in both tell fields apart. -/
structure Schema.Meets (inspected : Bool) (schema : Schema) (layout : RecordLayout) : Prop where
  agrees : schema.agrees inspected layout = true
  mirrors : schema.mirrors layout = true
  sound : layout.isSound = true
  distinct : schema.isDistinct = true

/-- A field and a layout speak of the same members. -/
structure Field.Meets (field : Field) (layout : Layout) : Prop where
  agrees : field.agrees layout = true
  mirrors : field.shape.mirrors layout = true
  sound : layout.isSound = true
  distinct : field.isDistinct = true

/-- A field and a layout speak of the same list entries. -/
structure Field.EntryMeets (field : Field) (layout : Layout) : Prop where
  agrees : field.entryAgrees layout = true
  mirrors : field.shape.mirrors layout = true
  sound : layout.isSound = true
  distinct : field.isDistinct = true

theorem Resource.meets (resource : Resource) : resource.schema.Meets true resource.layout :=
  ⟨resource.agrees, resource.mirrors, resource.layout_isSound, resource.isDistinct⟩

section Meets

variable {inspected : Bool} {schema : Schema} {layout : RecordLayout} {title name : String}
  {readOnly dynamic : Bool} {field item : Field} {inner : Layout}

theorem Schema.Meets.unique (meets : schema.Meets inspected layout) : layout.names.Nodup :=
  (layout.isSound_iff.mp meets.sound).1

theorem Schema.Meets.field?_of_mem (meets : schema.Meets inspected layout)
    (listed : (name, field) ∈ schema.fields) : schema.field? name = some field :=
  Members.get?_of_mem (schema.isDistinct_iff.mp meets.distinct).1 listed

theorem Schema.Meets.isSound (meets : schema.Meets inspected layout) {place : WireField}
    (known : place ∈ layout.fields) :
    place.presence.suits place.layout = true ∧ place.layout.isSound = true :=
  place.isSound_iff.mp ((layout.isSound_iff.mp meets.sound).2 place known)

/-- Each declared field has its place, and a field that can be edited speaks of the same members as
its place. -/
theorem Schema.Meets.place (meets : schema.Meets inspected layout)
    (declared : schema.field? name = some field) :
    ∃ place ∈ layout.fields, place.name = name ∧ layout.field? name = some place ∧
      field.mirrors place.layout = true ∧ (field.readOnly = false → field.Meets place.layout) := by
  obtain ⟨place, known, named, found, same⟩ := wire_of_mirrors meets.mirrors declared
  refine ⟨place, known, named, found, same, fun editable => ?_⟩
  obtain ⟨other, again, agrees⟩ := ((agrees_iff inspected schema layout).mp meets.agrees).2 _
    (Members.mem_of_get? declared) editable
  rw [found, Option.some.injEq] at again
  exact ⟨again ▸ agrees, ((field.mirrors_iff place.layout).mp same).1, (meets.isSound known).2,
    isDistinct_of_field? meets.distinct declared⟩

/-- The field of a place mirrors it, and one that can be edited speaks of the same members. -/
theorem Schema.Meets.of_known (meets : schema.Meets inspected layout) {place : WireField}
    (known : place ∈ layout.fields) (declared : schema.field? place.name = some field) :
    field.mirrors place.layout = true ∧ (field.readOnly = false → field.Meets place.layout) := by
  obtain ⟨other, _, _, found, same, editable⟩ := meets.place declared
  rw [RecordLayout.field?_of_mem meets.unique known, Option.some.injEq] at found
  subst found
  exact ⟨same, editable⟩

theorem Field.Meets.of_composite
    (meets : Field.Meets ⟨title, readOnly, .composite schema⟩ inner) :
    ∃ layout, inner = .record layout ∧ schema.Meets false layout := by
  obtain ⟨agrees, mirrors, sound, distinct⟩ := meets
  cases inner with
  | record layout => exact ⟨layout, rfl, agrees, mirrors, sound, distinct⟩
  | _ => cases agrees

theorem Field.EntryMeets.of_composite
    (meets : Field.EntryMeets ⟨title, readOnly, .composite schema⟩ inner) :
    ∃ layout, inner = .record layout ∧ schema.Meets true layout := by
  obtain ⟨agrees, mirrors, sound, distinct⟩ := meets
  cases inner with
  | record layout => exact ⟨layout, rfl, agrees, mirrors, sound, distinct⟩
  | _ => cases agrees

theorem Field.Meets.of_list (meets : Field.Meets ⟨title, readOnly, .list item dynamic⟩ inner) :
    ∃ layout, inner = .list layout ∧ item.EntryMeets layout := by
  obtain ⟨agrees, mirrors, sound, distinct⟩ := meets
  cases inner with
  | list layout =>
      exact ⟨layout, rfl, agrees, ((item.mirrors_iff layout).mp mirrors).1, sound, distinct⟩
  | _ => cases agrees

theorem Field.EntryMeets.of_list
    (meets : Field.EntryMeets ⟨title, readOnly, .list item dynamic⟩ inner) :
    ∃ layout, inner = .list layout ∧ item.EntryMeets layout := by
  obtain ⟨agrees, mirrors, sound, distinct⟩ := meets
  cases inner with
  | list layout =>
      exact ⟨layout, rfl, agrees, ((item.mirrors_iff layout).mp mirrors).1, sound, distinct⟩
  | _ => cases agrees

end Meets

end ResourceEditor
