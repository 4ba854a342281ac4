import Mathlib.Data.List.Forall2
import ResourceEditor.Proofs.Schema.Nesting
import ResourceEditor.Proofs.Value.Lookup
import ResourceEditor.Validation.Basic
/-
This file says when one form is another one with members inserted that the schema knows nothing of,
and what the two have in common.
-/

namespace ResourceEditor

/-- Members put in between those of a record, under names that are foreign to it. Those that it has
keep their names and their order, and are at most changed inside. -/
inductive Members.Inserted (foreign : String → Prop) (inside : String → Value → Value → Prop) :
    Record → Record → Prop where
  | done : Inserted foreign inside [] []
  | extra {name : String} {members more : Record} (value : Value) (unknown : foreign name)
      (others : Inserted foreign inside members more) :
      Inserted foreign inside members ((name, value) :: more)
  | kept {name : String} {value other : Value} {members more : Record}
      (inner : inside name value other) (others : Inserted foreign inside members more) :
      Inserted foreign inside ((name, value) :: members) ((name, other) :: more)

mutual

/-- The second record is the first one with members inserted, in it and in the declared records
below it, under names that the record's schema neither declares nor speaks of in an order rule. -/
def Schema.Extends : Schema → Record → Record → Prop
  | ⟨_, fields, _, orders⟩, model, more =>
      Members.Inserted
        (fun name => name ∉ Members.names fields ∧
          ∀ rule ∈ orders, rule.lower ≠ name ∧ rule.upper ≠ name)
        (Schema.MemberExtends fields) model more

/-- What is not declared does not change. -/
def Schema.MemberExtends : List (String × Field) → String → Value → Value → Prop
  | [], _, value, other => other = value
  | (first, field) :: rest, name, value, other =>
      if first = name then field.Extends value other
      else Schema.MemberExtends rest name value other

def Field.Extends : Field → Value → Value → Prop
  | ⟨_, _, shape⟩, value, other => shape.Extends value other

def Shape.Extends : Shape → Value → Value → Prop
  | .scalar _, value, other => other = value
  | .composite schema, value, other =>
      match value, other with
      | .record members, .record more => schema.Extends members more
      | value, other => other = value
  | .list item _, value, other =>
      match value, other with
      | .list entries, .list others => List.Forall₂ item.Extends entries others
      | value, other => other = value

end

namespace Schema

variable {schema : Schema} {name : String} {value other : Value} {model more : Record}

/-- Whether the schema says nothing about a name. -/
def IsForeign (schema : Schema) (name : String) : Prop :=
  name ∉ Members.names schema.fields ∧ ∀ rule ∈ schema.orders, rule.lower ≠ name ∧ rule.upper ≠ name

theorem extends_iff : schema.Extends model more ↔
    Members.Inserted schema.IsForeign (MemberExtends schema.fields) model more := by
  obtain ⟨title, fields, required, orders⟩ := schema
  rw [Extends]
  rfl

theorem memberExtends_eq (fields : List (String × Field)) :
    MemberExtends fields name value other =
      match Members.get? fields name with
      | some field => field.Extends value other
      | none => other = value := by
  induction fields with
  | nil => rfl
  | cons pair rest ih =>
      obtain ⟨first, field⟩ := pair
      rw [MemberExtends, Members.get?_cons]
      split
      next => rfl
      next => exact ih

theorem memberExtends_of_field {fields : List (String × Field)} {field : Field}
    (declared : Members.get? fields name = some field) (inner : field.Extends value other) :
    MemberExtends fields name value other := by
  rw [memberExtends_eq, declared]
  exact inner

end Schema

/-- A form is itself with nothing inserted. -/
theorem Schema.extends_refl : (∀ (schema : Schema) (model : Record), schema.Extends model model) ∧
    ∀ (field : Field) (value : Value), field.Extends value value := by
  refine Schema.descent (fun schema => ∀ model, schema.Extends model model)
    (fun field => ∀ value, field.Extends value value) ?_ ?_ ?_ ?_
  · intro schema fields model
    rw [extends_iff]
    induction model with
    | nil => exact .done
    | cons pair rest ih =>
        refine .kept ?_ ih
        rw [memberExtends_eq]
        split
        next field declared => exact fields _ (Members.mem_of_get? declared) pair.2
        next => rfl
  · intro title readOnly rule value
    rw [Field.Extends, Shape.Extends]
  · intro title readOnly below inside value
    cases value with
    | record members => exact inside members
    | _ => rfl
  · intro title readOnly item dynamic inside value
    cases value with
    | list entries => exact List.forall₂_same.mpr fun entry _ => inside entry
    | _ => rfl

namespace Field.Extends

variable {field : Field} {value other : Value}

/-- What is not the same afterwards is a record or a list, and differs inside. -/
theorem eq_or_inside (grown : field.Extends value other) :
    other = value ∨
      (∃ below members more, field.shape = .composite below ∧ value = .record members ∧
        other = .record more ∧ below.Extends members more) ∨
      ∃ item dynamic entries others, field.shape = .list item dynamic ∧ value = .list entries ∧
        other = .list others ∧ List.Forall₂ item.Extends entries others := by
  obtain ⟨title, readOnly, shape⟩ := field
  rw [Field.Extends] at grown
  cases shape with
  | scalar rule => exact .inl grown
  | composite below =>
      dsimp only [Shape.Extends] at grown
      split at grown
      next members more => exact .inr (.inl ⟨below, members, more, rfl, rfl, rfl, grown⟩)
      next => exact .inl grown
  | list item dynamic =>
      dsimp only [Shape.Extends] at grown
      split at grown
      next entries others =>
        exact .inr (.inr ⟨item, dynamic, entries, others, rfl, rfl, rfl, grown⟩)
      next => exact .inl grown

/-- Only records and lists differ, so what is read off a scalar is the same. -/
theorem integer?_eq (grown : field.Extends value other) : other.integer? = value.integer? := by
  obtain rfl | ⟨_, _, _, _, rfl, rfl, _⟩ | ⟨_, _, _, _, _, rfl, rfl, _⟩ := grown.eq_or_inside
  · rfl
  · rfl
  · rfl

theorem record {below : Schema} {members : Record} (grown : field.Extends (.record members) other)
    (shape : field.shape = .composite below) :
    ∃ more, other = .record more ∧ below.Extends members more := by
  obtain ⟨title, readOnly, _⟩ := field
  cases shape
  cases other with
  | record more => exact ⟨more, rfl, grown⟩
  | _ => cases grown

theorem list {item : Field} {dynamic : Bool} {entries : List Value}
    (grown : field.Extends (.list entries) other) (shape : field.shape = .list item dynamic) :
    ∃ others, other = .list others ∧ List.Forall₂ item.Extends entries others := by
  obtain ⟨title, readOnly, _⟩ := field
  cases shape
  cases other with
  | list others => exact ⟨others, rfl, grown⟩
  | _ => cases grown

theorem getElem? {item : Field} {entries others : List Value} {position : Nat} {entry : Value}
    (each : List.Forall₂ item.Extends entries others) (there : entries[position]? = some entry) :
    ∃ other, others[position]? = some other ∧ item.Extends entry other := by
  obtain ⟨within, rfl⟩ := List.getElem?_eq_some_iff.mp there
  have reached : position < others.length := each.length_eq ▸ within
  exact ⟨_, List.getElem?_eq_getElem reached, each.get within reached⟩

end Field.Extends

section Blank

/-- What is filled in stays so when members are inserted. -/
def Schema.StaysFilled (schema : Schema) : Prop :=
  ∀ model more, schema.Extends model more → Value.allEmpty more = true →
    Value.allEmpty model = true

def Field.StaysFilled (field : Field) : Prop :=
  ∀ value other, field.Extends value other → other.isEmpty = true → value.isEmpty = true

theorem Schema.staysFilled_of_fields {schema : Schema}
    (fields : ∀ pair ∈ schema.fields, pair.2.StaysFilled) : schema.StaysFilled := by
  intro model more grown blank
  rw [extends_iff] at grown
  induction grown with
  | done => rfl
  | extra value unknown others ih =>
      rw [Value.allEmpty, Bool.and_eq_true] at blank
      exact ih blank.2
  | @kept name value other members more inner others ih =>
      rw [Value.allEmpty, Bool.and_eq_true] at blank ⊢
      refine ⟨?_, ih blank.2⟩
      rw [memberExtends_eq] at inner
      split at inner
      next field declared =>
        exact fields _ (Members.mem_of_get? declared) value other inner blank.1
      next => exact inner ▸ blank.1

theorem staysFilled : (∀ schema : Schema, schema.StaysFilled) ∧
    ∀ field : Field, field.StaysFilled := by
  refine Schema.descent Schema.StaysFilled Field.StaysFilled
    (fun _ => Schema.staysFilled_of_fields) ?_ ?_ ?_
  · intro title readOnly rule value other grown blank
    rw [Field.Extends, Shape.Extends] at grown
    exact grown ▸ blank
  · intro title readOnly below inside value other grown blank
    obtain rfl | ⟨_, members, more, shape, rfl, rfl, grown⟩ | ⟨_, _, _, _, shape, _⟩ :=
      grown.eq_or_inside
    · exact blank
    · cases shape
      exact inside members more grown blank
    · cases shape
  · intro title readOnly item dynamic inside value other grown blank
    obtain rfl | ⟨_, _, _, shape, _⟩ | ⟨_, _, entries, others, _, rfl, rfl, each⟩ :=
      grown.eq_or_inside
    · exact blank
    · cases shape
    · -- a list has as many entries as before
      rw [Value.isEmpty, List.isEmpty_iff] at blank
      subst blank
      rw [List.forall₂_nil_right_iff] at each
      subst each
      rfl

theorem Field.Extends.isEmpty {field : Field} {value other : Value}
    (grown : field.Extends value other) (filled : value.isEmpty = false) :
    other.isEmpty = false := by
  refine eq_false_of_ne_true fun blank => ?_
  rw [staysFilled.2 field value other grown blank] at filled
  cases filled

end Blank

namespace Schema.Extends

variable {schema : Schema} {model more : Record} {name : String}

/-- Where the schema knows a name, one record has a member there just when the other one has. -/
theorem member (grown : schema.Extends model more) (known : ¬ schema.IsForeign name) :
    (Members.get? model name = none ∧ Members.get? more name = none) ∨
      ∃ value other, Members.get? model name = some value ∧ Members.get? more name = some other ∧
        MemberExtends schema.fields name value other := by
  rw [extends_iff] at grown
  induction grown with
  | done => exact .inl ⟨rfl, rfl⟩
  | @extra another members more value unknown others ih =>
      have different : another ≠ name := fun same => known (same ▸ unknown)
      rw [Members.get?_cons, if_neg different]
      exact ih
  | @kept another value other members more inner others ih =>
      rw [Members.get?_cons, Members.get?_cons]
      by_cases same : another = name
      · subst same
        rw [if_pos rfl, if_pos rfl]
        exact .inr ⟨value, other, rfl, rfl, inner⟩
      · rw [if_neg same, if_neg same]
        exact ih

theorem field {field : Field} (grown : schema.Extends model more)
    (distinct : (Members.names schema.fields).Nodup) (declared : (name, field) ∈ schema.fields) :
    (Members.get? model name = none ∧ Members.get? more name = none) ∨
      ∃ value other, Members.get? model name = some value ∧ Members.get? more name = some other ∧
        field.Extends value other := by
  have known : ¬ schema.IsForeign name := fun foreign =>
    foreign.1 (List.mem_map.mpr ⟨_, declared, rfl⟩)
  obtain neither | ⟨value, other, here, there, inner⟩ := grown.member known
  · exact .inl neither
  · rw [memberExtends_eq, Members.get?_of_mem distinct declared] at inner
    exact .inr ⟨value, other, here, there, inner⟩

theorem of_get? {field : Field} {value : Value} (grown : schema.Extends model more)
    (distinct : (Members.names schema.fields).Nodup) (declared : (name, field) ∈ schema.fields)
    (held : Members.get? model name = some value) :
    ∃ other, Members.get? more name = some other ∧ field.Extends value other := by
  obtain ⟨none, -⟩ | ⟨_, other, here, there, inner⟩ := grown.field distinct declared
  · rw [held] at none
    cases none
  · rw [held, Option.some.injEq] at here
    exact ⟨other, there, here ▸ inner⟩

/-- The names of order rules stand for the same numbers. -/
theorem integer?_eq (grown : schema.Extends model more) (known : ¬ schema.IsForeign name) :
    (Members.get? more name).bind Value.integer? =
      (Members.get? model name).bind Value.integer? := by
  obtain ⟨here, there⟩ | ⟨value, other, here, there, inner⟩ := grown.member known
  · rw [here, there]
  · rw [here, there]
    rw [memberExtends_eq] at inner
    split at inner
    next field _ => exact inner.integer?_eq
    next => rw [inner]

end Schema.Extends

end ResourceEditor
