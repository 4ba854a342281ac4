import ResourceEditor.Proofs.Edit.Refusal
import ResourceEditor.Proofs.Typing.Conformity
import ResourceEditor.Proofs.Value.Equality
/-
This file takes one step of a change apart into what the step enters and what it puts back in its
place. What is put back in one place leaves the other places as they were.
-/

namespace ResourceEditor

namespace Value

variable {change : Value → Except EditError Value} {place : Path} {rest : Route}
  {field : Field} {segment another : Segment} {value other below inner new : Value}
  {error : EditError}

theorem enters_field_iff {name : String} :
    value.Enters (.field name) field below ↔ ∃ members, value = .record members ∧
      below = (Members.get? members name).getD field.blankEntry := by
  constructor
  · rintro ⟨members, _, _⟩
    exact ⟨members, rfl, rfl⟩
  · rintro ⟨members, rfl, rfl⟩
    exact .member members name field

theorem enters_index_iff {position : Nat} :
    value.Enters (.index position) field below ↔ ∃ entries, value = .list entries ∧
      entries[position]? = some below := by
  constructor
  · intro enters
    cases enters with
    | entry item there => exact ⟨_, rfl, there⟩
  · rintro ⟨entries, rfl, there⟩
    exact .entry field there

/-- A step of a change that succeeds, from what it enters to what it puts back. -/
theorem update_step_iff :
    value.update change place ((segment, field) :: rest) = .ok new ↔
      ∃ below inner, value.Enters segment field below ∧
        below.update change (place ++ [segment]) rest = .ok inner ∧
        new = value.put segment inner := by
  constructor
  · intro updated
    obtain ⟨below, enters⟩ | ⟨reason, stops⟩ := enters_or_stops place value segment field
    · rw [update_of_enters enters] at updated
      obtain ⟨inner, inside, rfl⟩ := map_eq_ok_iff.mp updated
      exact ⟨below, inner, enters, inside, rfl⟩
    · rw [update_of_stops stops] at updated
      cases updated
  · rintro ⟨below, inner, enters, inside, rfl⟩
    rw [update_of_enters enters, inside]
    rfl

theorem enters_of_step? (there : value.step? segment = some below) (field : Field) :
    value.Enters segment field below := by
  cases segment with
  | field name =>
      obtain ⟨members, rfl, held⟩ := record_of_step? there
      exact enters_field_iff.mpr ⟨members, rfl, by rw [held, Option.getD_some]⟩
  | index position =>
      obtain ⟨entries, rfl, held⟩ := list_of_step? there
      exact .entry field held

/-- A step enters what was put in its place. -/
theorem Enters.put_self (enters : value.Enters segment field below) (inner : Value) :
    (value.put segment inner).Enters segment field inner := by
  cases enters with
  | member members name =>
      refine enters_field_iff.mpr ⟨_, rfl, ?_⟩
      rw [Members.get?_set, if_pos rfl, Option.getD_some]
  | entry item there =>
      exact enters_index_iff.mpr
        ⟨_, rfl, List.getElem?_set_self (List.getElem?_eq_some_iff.mp there).1⟩

/-- What is put in one place is not entered by a step to another one. -/
theorem enters_put_iff (different : another ≠ segment) :
    (value.put segment inner).Enters another field below ↔ value.Enters another field below := by
  cases value with
  | record members =>
      cases segment with
      | index position => rfl
      | field name =>
          cases another with
          | index position => simp [enters_index_iff, put]
          | field second =>
              have apart : name ≠ second := fun same => different (congrArg _ same.symm)
              simp [enters_field_iff, put, Members.get?_set, apart]
  | list entries =>
      cases segment with
      | field name => rfl
      | index position =>
          cases another with
          | field name => simp [enters_field_iff, put]
          | index second =>
              have apart : position ≠ second := fun same => different (congrArg _ same.symm)
              simp [enters_index_iff, put, List.getElem?_set_ne apart]
  | _ => cases segment <;> rfl

theorem put_put (value : Value) (segment : Segment) (first second : Value) :
    (value.put segment first).put segment second = value.put segment second := by
  cases value with
  | record members =>
      cases segment with
      | field name => exact congrArg _ (Members.set_set members name first second)
      | index position => rfl
  | list entries =>
      cases segment with
      | field name => rfl
      | index position => exact congrArg _ (List.set_set ..)
  | _ => cases segment <;> rfl

/-- To put a value where it is changes nothing. -/
theorem put_of_step? (there : value.step? segment = some below) :
    value.put segment below = value := by
  cases segment with
  | field name =>
      obtain ⟨members, rfl, held⟩ := record_of_step? there
      exact congrArg _ (Members.set_of_get? held)
  | index position =>
      obtain ⟨entries, rfl, held⟩ := list_of_step? there
      obtain ⟨within, rfl⟩ := List.getElem?_eq_some_iff.mp held
      exact congrArg _ (List.set_getElem_self within)

/-- In which order values are put in two places can only be seen from the order of members. -/
theorem put_same (different : another ≠ segment) (value first second : Value) :
    ((value.put segment first).put another second).Same
      ((value.put another second).put segment first) := by
  cases value with
  | record members =>
      cases segment with
      | index position => cases another <;> exact .refl _
      | field name =>
          cases another with
          | index position => exact .refl _
          | field other =>
              have apart : name ≠ other := fun same => different (congrArg _ same.symm)
              refine .of_get? fun third => ?_
              rw [Members.get?_set, Members.get?_set, Members.get?_set, Members.get?_set]
              by_cases here : name = third
              · rw [if_pos here, if_neg (here ▸ apart.symm), if_pos here]
              · rw [if_neg here, if_neg here]
  | list entries =>
      cases segment with
      | field name => cases another <;> exact .refl _
      | index position =>
          cases another with
          | field name => exact .refl _
          | index other =>
              have apart : position ≠ other := fun same => different (congrArg _ same.symm)
              show (list ((entries.set position first).set other second)).Same
                (list ((entries.set other second).set position first))
              rw [List.set_comm first second apart]
              exact .refl _
  | _ => cases segment <;> cases another <;> exact .refl _

theorem Same.put (same : value.Same other) (segment : Segment) (alike : below.Same inner) :
    (value.put segment below).Same (other.put segment inner) := by
  cases same with
  | scalar scalar =>
      cases value with
      | record members => cases scalar
      | list entries => cases scalar
      | _ => cases segment <;> exact .refl _
  | record names each =>
      cases segment with
      | field name => exact .set (.record names each) name alike
      | index position => exact .record names each
  | list length each =>
      cases segment with
      | field name => exact .list length each
      | index position => exact .setEntry (.list length each) position alike

/-- Steps into values that look the same enter such values. -/
theorem Same.enters (same : value.Same other) (enters : value.Enters segment field below) :
    ∃ found, other.Enters segment field found ∧ below.Same found := by
  cases same with
  | scalar scalar => exact ⟨below, enters, .refl below⟩
  | @record members others names each =>
      have whole : (Value.record members).Same (.record others) := .record names each
      cases enters with
      | member _ name =>
          refine ⟨_, .member others name field, ?_⟩
          cases held : Members.get? members name with
          | some old =>
              obtain ⟨found, there, alike⟩ := whole.member held
              rw [there]
              exact alike
          | none =>
              cases there : Members.get? others name with
              | none => exact .refl _
              | some found =>
                  obtain ⟨old, never, _⟩ := whole.symm.member there
                  rw [held] at never
                  cases never
  | list length each =>
      cases enters with
      | entry item there =>
          obtain ⟨found, here, alike⟩ := Same.entry (.list length each) there
          exact ⟨found, .entry field here, alike⟩

theorem Same.stops (same : value.Same other) (stops : value.Stops place segment error) :
    other.Stops place segment error := by
  cases same with
  | scalar scalar => exact stops
  | record names each =>
      cases stops with
      | noRecord shape => exact absurd rfl (shape _)
      | noList shape => exact .noList fun entries => Value.noConfusion
  | list length each =>
      cases stops with
      | noRecord shape => exact .noRecord fun members => Value.noConfusion
      | noList shape => exact absurd rfl (shape _)
      | tooShort short =>
          rw [length] at short ⊢
          exact .tooShort short

theorem isDistinct_put (distinct : value.isDistinct = true) (segment : Segment)
    (fresh : below.isDistinct = true) : (value.put segment below).isDistinct = true := by
  cases value with
  | record members =>
      cases segment with
      | field name => exact Record.isDistinct_set name distinct fresh
      | index position => exact distinct
  | list entries =>
      cases segment with
      | field name => exact distinct
      | index position =>
          have each := (isDistinct_list entries).mp distinct
          refine (isDistinct_list _).mpr fun entry member => ?_
          obtain there | rfl := List.mem_or_eq_of_mem_set member
          · exact each entry there
          · exact fresh
  | _ => cases segment <;> exact distinct

/-- What a step enters has no two members of one name in a record if the whole has none. -/
theorem Enters.isDistinct (enters : value.Enters segment field below)
    (fresh : field.isDistinct = true) (distinct : value.isDistinct = true) :
    below.isDistinct = true := by
  cases enters with
  | member members name =>
      cases held : Members.get? members name with
      | none => exact ((field.startsTyped upheld_isOwn fresh).entry .blank).isDistinct
      | some old => exact ((isDistinct_record members).mp distinct).2 _ (Members.mem_of_get? held)
  | entry item there => exact (isDistinct_list _).mp distinct _ (List.mem_of_getElem? there)

end Value

end ResourceEditor
