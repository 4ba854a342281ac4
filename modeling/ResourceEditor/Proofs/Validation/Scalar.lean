import Mathlib.Data.List.Nodup
import ResourceEditor.Proofs.Validation.Rules
/-
This file says what the rule of a scalar field finds wrong with a value, and with which values it is
not concerned.
-/

namespace ResourceEditor

/-- Whether a cause is that of an order rule. -/
def Cause.isAbove : Cause → Bool
  | .above _ _ => true
  | _ => false

namespace Value

theorem isUnfilled_iff (value : Value) :
    value.isUnfilled = false ↔ value.isEmpty = false ∨ value.isNaN = true := by
  rw [isUnfilled, Bool.and_eq_false_iff, Bool.not_eq_false']

/-- An empty value stands for no integer. -/
theorem integer?_of_isEmpty {value : Value} (empty : value.isEmpty = true) :
    value.integer? = none := by
  cases value with
  | text content =>
      have blank : content = "" := by simpa [isEmpty] using empty
      subst blank
      decide
  | number number =>
      cases number with
      | int value => cases empty
      | notANumber => rfl
  | _ => rfl

theorem isScalar_of_text? {value : Value} {text : String} (rendered : value.text? = some text) :
    value.isScalar = true := by
  cases value with
  | record members => cases rendered
  | list entries => cases rendered
  | _ => rfl

theorem isScalar_of_integer? {value : Value} {number : Int64}
    (read : value.integer? = some number) : value.isScalar = true := by
  cases value with
  | record members => cases read
  | list entries => cases read
  | _ => rfl

end Value

namespace ScalarRule

theorem outside_iff (rule : ScalarRule) (number : Int64) :
    (rule.isBelow number || rule.isAbove number) = true ↔
      (∃ minimum ∈ rule.minimum, number < minimum) ∨
        ∃ maximum ∈ rule.maximum, maximum < number := by
  rw [Bool.or_eq_true, isBelow, isAbove]
  cases rule.minimum <;> cases rule.maximum <;> simp

theorem mem_numberCauses {rule : ScalarRule} {title : String} {value : Value} {cause : Cause} :
    cause ∈ rule.numberCauses title value ↔
      (value.integer? = none ∧ cause = .notANumber title) ∨
        ∃ number, value.integer? = some number ∧
          ((∃ minimum ∈ rule.minimum, number < minimum) ∨
            ∃ maximum ∈ rule.maximum, maximum < number) ∧
          cause = .outOfRange title rule.minimum rule.maximum := by
  rw [numberCauses]
  cases value.integer? with
  | none => simp
  | some number =>
      dsimp only
      by_cases beyond : (rule.isBelow number || rule.isAbove number) = true
      · rw [if_pos beyond, List.mem_singleton]
        constructor
        · intro same
          exact .inr ⟨number, rfl, (outside_iff rule number).mp beyond, same⟩
        · rintro (⟨malformed, _⟩ | ⟨_, _, _, same⟩)
          · cases malformed
          · exact same
      · rw [if_neg beyond]
        constructor
        · intro nothing
          cases nothing
        · rintro (⟨malformed, _⟩ | ⟨_, read, far, _⟩)
          · cases malformed
          · cases read
            exact absurd ((outside_iff rule number).mpr far) beyond

theorem mem_textCauses {rule : ScalarRule} {title text : String} {cause : Cause} :
    cause ∈ rule.textCauses title text ↔
      (∃ pattern ∈ rule.pattern, pattern.isMatch text = false ∧ cause = .pattern pattern) ∨
        (rule.allowed ≠ [] ∧ text ∉ rule.allowed ∧ cause = .notAllowed title rule.allowed) := by
  rw [textCauses, List.mem_append]
  apply or_congr
  · cases rule.pattern with
    | none => simp
    | some pattern => cases matched : pattern.isMatch text <;> simp [matched]
  · by_cases none : rule.allowed = [] <;> by_cases other : text ∈ rule.allowed <;>
      simp [none, other]

theorem causes_nested (rule : ScalarRule) (title : String) {value : Value}
    (nested : value.isScalar = false) : rule.causes title value = [.notSingle title] := by
  simp [causes, nested]

theorem causes_number {rule : ScalarRule} (title : String) {value : Value}
    (single : value.isScalar = true) (kind : rule.kind = .number) :
    rule.causes title value = rule.numberCauses title value := by
  simp [causes, single, kind]

theorem causes_text {rule : ScalarRule} (title : String) {value : Value} {text : String}
    (kind : rule.kind ≠ .number) (rendered : value.text? = some text) :
    rule.causes title value = rule.textCauses title text := by
  rw [causes, Value.isScalar_of_text? rendered, rendered]
  cases other : rule.kind with
  | number => exact absurd other kind
  | _ => rfl

/-- The mark for malformed numbers has no text that could fail. -/
theorem causes_unrendered {rule : ScalarRule} (title : String) {value : Value}
    (single : value.isScalar = true) (kind : rule.kind ≠ .number)
    (unrendered : value.text? = none) : rule.causes title value = [] := by
  rw [causes, single, unrendered]
  cases other : rule.kind with
  | number => exact absurd other kind
  | _ => rfl

variable {field : Field} {rule : ScalarRule} {value : Value} {cause : Cause}

theorem misfit_of_mem_causes (shape : field.shape = .scalar rule)
    (reported : cause ∈ rule.causes field.title value) : Misfit field value cause := by
  by_cases nested : value.isScalar = false
  · rw [causes_nested rule field.title nested, List.mem_singleton] at reported
    subst reported
    exact .notSingle shape nested
  have single : value.isScalar = true := eq_true_of_ne_false nested
  by_cases kind : rule.kind = .number
  · rw [causes_number field.title single kind, mem_numberCauses] at reported
    obtain ⟨malformed, rfl⟩ | ⟨number, read, outside, rfl⟩ := reported
    · exact .notANumber shape kind single malformed
    · exact .outOfRange shape kind read outside
  · cases rendered : value.text? with
    | none =>
        rw [causes_unrendered field.title single kind rendered] at reported
        cases reported
    | some text =>
        rw [causes_text field.title kind rendered, mem_textCauses] at reported
        obtain ⟨pattern, asked, fails, rfl⟩ | ⟨asked, other, rfl⟩ := reported
        · exact .pattern shape kind rendered asked fails
        · exact .notAllowed shape kind rendered asked other

theorem mem_causes_of_misfit (shape : field.shape = .scalar rule)
    (misfit : Misfit field value cause) : cause ∈ rule.causes field.title value := by
  have unique {other : ScalarRule} (again : field.shape = .scalar other) : other = rule :=
    Shape.scalar.inj (again.symm.trans shape)
  cases misfit with
  | notSingle again nested =>
      rw [causes_nested rule field.title nested]
      exact List.mem_singleton_self _
  | notObject other => rw [shape] at other; cases other
  | notList other => rw [shape] at other; cases other
  | notANumber again kind single malformed =>
      cases unique again
      rw [causes_number field.title single kind]
      exact mem_numberCauses.mpr (.inl ⟨malformed, rfl⟩)
  | outOfRange again kind read outside =>
      cases unique again
      rw [causes_number field.title (Value.isScalar_of_integer? read) kind]
      exact mem_numberCauses.mpr (.inr ⟨_, read, outside, rfl⟩)
  | pattern again kind rendered asked fails =>
      cases unique again
      rw [causes_text field.title kind rendered]
      exact mem_textCauses.mpr (.inl ⟨_, asked, fails, rfl⟩)
  | notAllowed again kind rendered asked other =>
      cases unique again
      rw [causes_text field.title kind rendered]
      exact mem_textCauses.mpr (.inr ⟨asked, other, rfl⟩)

/-- What is found about one value is found once. -/
theorem causes_nodup (rule : ScalarRule) (title : String) (value : Value) :
    (rule.causes title value).Nodup := by
  by_cases nested : value.isScalar = false
  · rw [causes_nested rule title nested]
    exact List.nodup_singleton _
  have single : value.isScalar = true := eq_true_of_ne_false nested
  by_cases kind : rule.kind = .number
  · rw [causes_number title single kind, numberCauses]
    cases value.integer? with
    | none => exact List.nodup_singleton _
    | some number =>
        dsimp only
        split
        · exact List.nodup_singleton _
        · exact List.nodup_nil
  · cases rendered : value.text? with
    | none =>
        rw [causes_unrendered title single kind rendered]
        exact List.nodup_nil
    | some text =>
        rw [causes_text title kind rendered, textCauses]
        cases rule.pattern with
        | none =>
            dsimp only
            split <;> simp
        | some pattern =>
            dsimp only
            split <;> split <;> simp

theorem isAbove_of_misfit (misfit : Misfit field value cause) : cause.isAbove = false := by
  cases misfit <;> rfl

end ScalarRule

end ResourceEditor
