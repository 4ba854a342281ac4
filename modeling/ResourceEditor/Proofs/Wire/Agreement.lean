import ResourceEditor.Proofs.Typing.Conformity
import ResourceEditor.Proofs.Validation.Rules
import ResourceEditor.Proofs.Wire.Fit
import ResourceEditor.Wire.Resource
/-
This file compares schemas with wire layouts: whether a layout has a place for everything that a
schema lets a user enter.
-/

namespace ResourceEditor

/-- Whether every scalar that a rule allows and that is filled in fits a layout. -/
def ScalarRule.agrees (rule : ScalarRule) : Layout → Bool
  | .text => rule.kind != .number
  | .unsigned bits => rule.kind == .number && rule.minimum.any (0 ≤ ·) &&
      rule.maximum.any fun maximum => maximum.toInt < ((Nat.pow 2 bits : Nat) : Int)
  | .choice choices => rule.kind != .number && !rule.allowed.isEmpty &&
      rule.allowed.all choices.contains
  | _ => false

/-- Blank texts stay in lists, and they are no choice. -/
def ScalarRule.entryAgrees (rule : ScalarRule) : Layout → Bool
  | .choice _ => false
  | layout => rule.agrees layout

/-- Whether there is something for a required field of a layout: the schema requires it as well, in
a record that is always looked at. -/
def Schema.provides (schema : Schema) (inspected : Bool) (wire : WireField) : Bool :=
  !wire.presence.isRequired || (inspected && schema.required.contains wire.name &&
    (schema.field? wire.name).any fun field => !field.readOnly)

mutual

/-- Whether every valid record of a schema fits a layout. A record that is not always looked at must
fit without any of its members. -/
def Schema.agrees (inspected : Bool) : Schema → RecordLayout → Bool
  | ⟨title, fields, required, orders⟩, layout =>
      layout.fields.all (Schema.provides ⟨title, fields, required, orders⟩ inspected) &&
        Schema.fieldsAgree layout fields

def Schema.fieldsAgree (layout : RecordLayout) : List (String × Field) → Bool
  | [] => true
  | (name, field) :: rest =>
      (field.readOnly || (layout.field? name).any fun wire => field.agrees wire.layout) &&
        Schema.fieldsAgree layout rest

/-- Whether every valid member for a field fits a layout. -/
def Field.agrees : Field → Layout → Bool
  | ⟨_, _, shape⟩, layout => shape.agrees layout

/-- Whether every valid list entry for a field fits a layout. -/
def Field.entryAgrees : Field → Layout → Bool
  | ⟨_, _, shape⟩, layout => shape.entryAgrees layout

def Shape.agrees : Shape → Layout → Bool
  | .scalar rule, layout => rule.agrees layout
  | .composite schema, .record layout => schema.agrees false layout
  | .list item _, .list inner => item.entryAgrees inner
  | _, _ => false

def Shape.entryAgrees : Shape → Layout → Bool
  | .scalar rule, layout => rule.entryAgrees layout
  | .composite schema, .record layout => schema.agrees true layout
  | .list item _, .list inner => item.entryAgrees inner
  | _, _ => false

end

theorem Schema.fieldsAgree_iff (layout : RecordLayout) (fields : List (String × Field)) :
    Schema.fieldsAgree layout fields = true ↔ ∀ pair ∈ fields, pair.2.readOnly = false →
      ∃ wire, layout.field? pair.1 = some wire ∧ pair.2.agrees wire.layout = true := by
  induction fields with
  | nil => simp [Schema.fieldsAgree]
  | cons pair rest ih =>
      rw [Schema.fieldsAgree, Bool.and_eq_true, ih, List.forall_mem_cons, Bool.or_eq_true,
        Option.any_eq_true, Bool.eq_false_iff, ← Decidable.or_iff_not_imp_left]

theorem Schema.agrees_iff (inspected : Bool) (schema : Schema) (layout : RecordLayout) :
    schema.agrees inspected layout = true ↔
      (∀ wire ∈ layout.fields, schema.provides inspected wire = true) ∧
        ∀ pair ∈ schema.fields, pair.2.readOnly = false →
          ∃ wire, layout.field? pair.1 = some wire ∧ pair.2.agrees wire.layout = true := by
  obtain ⟨title, fields, required, orders⟩ := schema
  rw [Schema.agrees, Bool.and_eq_true, List.all_eq_true, Schema.fieldsAgree_iff]

theorem Schema.provides_required {schema : Schema} {inspected : Bool} {wire : WireField}
    (provided : schema.provides inspected wire = true) (asked : wire.presence.isRequired = true) :
    inspected = true ∧ schema.required.contains wire.name = true ∧
      ∃ field, schema.field? wire.name = some field ∧ field.readOnly = false := by
  rw [Schema.provides, asked] at provided
  simpa [Option.any_eq_true, and_assoc] using provided

section Scalar

variable {asked : Schema → Record → Prop} {field : Field} {rule : ScalarRule} {value : Value}

/-- A number within its bounds fits into as many bits as the upper bound has. -/
theorem ScalarRule.fitUnsigned_ok {bits : Nat} (shape : field.shape = .scalar rule)
    (agrees : rule.agrees (.unsigned bits) = true) {number : Int64}
    (sound : ∀ cause, ¬Misfit field (.number (.int number)) cause) :
    Layout.fitUnsigned bits (.number (.int number)) = .ok (.int number) := by
  simp only [ScalarRule.agrees, Bool.and_eq_true, beq_iff_eq, Option.any_eq_true,
    decide_eq_true_eq] at agrees
  obtain ⟨⟨kind, minimum, lower, positive⟩, maximum, upper, fits⟩ := agrees
  have above : ¬number < minimum := fun below =>
    sound _ (.outOfRange shape kind rfl (.inl ⟨minimum, lower, below⟩))
  have below : ¬maximum < number := fun above =>
    sound _ (.outOfRange shape kind rfl (.inr ⟨maximum, upper, above⟩))
  rw [Int64.lt_iff_toInt_lt] at above below
  rw [Int64.le_iff_toInt_le] at positive
  have zero : (0 : Int64).toInt = 0 := rfl
  rw [Layout.fitUnsigned, if_pos ⟨by omega, by omega⟩]

/-- A scalar with nothing wrong fits a layout that its rule agrees with, as it is. -/
theorem ScalarRule.fit_ok {layout : Layout} (shape : field.shape = .scalar rule)
    (agrees : rule.agrees layout = true) (conforms : value.Conforms asked field)
    (sound : ∀ cause, ¬Misfit field value cause) : layout.fit value = .ok value := by
  obtain ⟨kind, number, rfl⟩ | ⟨kind, content, rfl⟩ := conforms.of_scalar shape
  · cases number with
    | notANumber => exact absurd (.notANumber shape kind rfl rfl) (sound (.notANumber field.title))
    | int number =>
        cases layout with
        | unsigned bits =>
            rw [Layout.fit]
            exact fitUnsigned_ok shape agrees sound
        | _ => simp [ScalarRule.agrees, kind] at agrees
  · cases layout with
    | text => rw [Layout.fit, Layout.fitText]
    | choice choices =>
        simp only [ScalarRule.agrees, Bool.and_eq_true, Bool.not_eq_true', List.all_eq_true]
          at agrees
        obtain ⟨⟨_, some⟩, known⟩ := agrees
        by_cases allowed : content ∈ rule.allowed
        · rw [Layout.fit, Layout.fitChoice, Layout.pick, known content allowed]
          rfl
        · exact absurd (.notAllowed shape kind rfl (by simpa using some) allowed) (sound _)
    | _ => simp [ScalarRule.agrees, kind] at agrees

theorem ScalarRule.agrees_of_entryAgrees {layout : Layout}
    (agrees : rule.entryAgrees layout = true) : rule.agrees layout = true := by
  cases layout with
  | choice choices => cases agrees
  | _ => exact agrees

/-- A blank text stays as it is in a list. -/
theorem ScalarRule.fit_blank {layout : Layout} (shape : field.shape = .scalar rule)
    (agrees : rule.entryAgrees layout = true) (conforms : value.Conforms asked field)
    (blank : value.isUnfilled = true) : layout.fit value = .ok value := by
  obtain ⟨_, number, rfl⟩ | ⟨kind, content, rfl⟩ := conforms.of_scalar shape
  · cases number <;> cases blank
  · cases layout with
    | text => rw [Layout.fit, Layout.fitText]
    | _ => simp [ScalarRule.entryAgrees, ScalarRule.agrees, kind] at agrees

end Scalar

theorem Resource.isDistinct (resource : Resource) : resource.schema.isDistinct = true := by
  cases resource <;> decide

/-- Each resource has a place on the wire for everything that its schema lets a user enter. -/
theorem Resource.agrees (resource : Resource) :
    resource.schema.agrees true resource.layout = true := by
  cases resource <;> decide

end ResourceEditor
