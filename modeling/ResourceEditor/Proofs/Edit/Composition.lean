import ResourceEditor.Path.Basic
import ResourceEditor.Proofs.Edit.Replacement
import ResourceEditor.Proofs.Typing.Editing
/-
This file puts changes of values together. Two changes at one place are one change there, changes at
places that are apart come to the same in either order, and values that look the same are changed to
values that look the same.
-/

namespace ResourceEditor

namespace Value

variable {change : Value → Except EditError Value} {place : Path} {route rest : Route}
  {field leaf last : Field} {value other left : Value}

/-- A change that is made where one was made before goes on with what came out. -/
theorem update_update (change another : Value → Except EditError Value) (place : Path)
    (route : Route) (value : Value) :
    (value.update change place route >>= fun left => left.update another place route) =
      value.update (fun held => change held >>= another) place route := by
  induction route generalizing value place with
  | nil => rfl
  | cons step rest ih =>
      obtain ⟨segment, field⟩ := step
      obtain ⟨below, enters⟩ | ⟨reason, stops⟩ := enters_or_stops place value segment field
      · rw [update_of_enters enters, update_of_enters enters, ← ih]
        cases below.update change (place ++ [segment]) rest with
        | error error => rfl
        | ok inner =>
            show (value.put segment inner).update another place ((segment, field) :: rest) =
              (inner.update another (place ++ [segment]) rest).map (value.put segment)
            rw [update_of_enters (enters.put_self inner)]
            exact congrArg (Except.map · _) (funext fun new => put_put value segment inner new)
      · rw [update_of_stops stops, update_of_stops stops]
        rfl

/-- To put at the end of a route what is there changes nothing. -/
theorem update_of_at? {held : Value} (there : value.at? (route.map Prod.fst) = some held)
    (given : change held = .ok held) (place : Path) :
    value.update change place route = .ok value := by
  induction route generalizing value place with
  | nil =>
      cases there
      exact given
  | cons step rest ih =>
      obtain ⟨segment, field⟩ := step
      rw [List.map_cons, at?_cons] at there
      obtain ⟨below, first, further⟩ := Option.bind_eq_some_iff.mp there
      rw [update_of_enters (enters_of_step? first field), ih further]
      exact congrArg Except.ok (put_of_step? first)

/-- A change that what is at the end of a route allows can be made. -/
theorem update_isOk_of_at? {held changed : Value}
    (there : value.at? (route.map Prod.fst) = some held) (given : change held = .ok changed)
    (place : Path) : ∃ new, value.update change place route = .ok new := by
  induction route generalizing value place with
  | nil =>
      cases there
      exact ⟨changed, given⟩
  | cons step rest ih =>
      obtain ⟨segment, field⟩ := step
      rw [List.map_cons, at?_cons] at there
      obtain ⟨below, first, further⟩ := Option.bind_eq_some_iff.mp there
      obtain ⟨inner, inside⟩ := ih further (place ++ [segment])
      exact ⟨_, update_step_iff.mpr ⟨below, inner, enters_of_step? first field, inside, rfl⟩⟩

/-- Two attempts agree: they fail for one reason, or they come to values that look the same. -/
inductive Agree : Except EditError Value → Except EditError Value → Prop where
  | error (error : EditError) : Agree (.error error) (.error error)
  | ok {value other : Value} (same : value.Same other) : Agree (.ok value) (.ok other)

theorem Agree.map {first second : Except EditError Value} {around about : Value → Value}
    (agree : Agree first second)
    (same : ∀ value other : Value, value.Same other → (around value).Same (about other)) :
    Agree (first.map around) (second.map about) := by
  cases agree with
  | error error => exact .error error
  | ok inner => exact .ok (same _ _ inner)

theorem Agree.of_ok {attempt : Except EditError Value} (agree : Agree (.ok value) attempt) :
    ∃ found, attempt = .ok found ∧ value.Same found := by
  cases agree with
  | ok same => exact ⟨_, rfl, same⟩

theorem Agree.of_error {error : EditError} {attempt : Except EditError Value}
    (agree : Agree (.error error) attempt) : attempt = .error error := by
  cases agree with
  | error => rfl

/-- Values that look the same are changed to such values, or the change fails for one reason. -/
theorem update_agrees
    (respects : ∀ held found : Value, held.Same found → Agree (change held) (change found))
    (place : Path) (route : Route) (same : value.Same other) :
    Agree (value.update change place route) (other.update change place route) := by
  induction route generalizing value other place with
  | nil => exact respects value other same
  | cons step rest ih =>
      obtain ⟨segment, field⟩ := step
      obtain ⟨below, enters⟩ | ⟨reason, stops⟩ := enters_or_stops place value segment field
      · obtain ⟨found, again, alike⟩ := same.enters enters
        rw [update_of_enters enters, update_of_enters again]
        exact (ih _ alike).map fun _ _ => same.put segment
      · rw [update_of_stops stops, update_of_stops (same.stops stops)]
        exact .error reason

/-- A change that puts no two members of one name into a record leaves none around it. -/
theorem isDistinct_update (leads : field.Leads route leaf) (fresh : field.isDistinct = true)
    (keeps : ∀ held changed, held.isDistinct = true → change held = .ok changed →
      changed.isDistinct = true)
    (distinct : value.isDistinct = true) (updated : value.update change place route = .ok left) :
    left.isDistinct = true := by
  induction leads generalizing value left place with
  | here => exact keeps value left distinct updated
  | step first others ih =>
      have inside := first.isDistinct fresh
      obtain ⟨below, inner, enters, done, rfl⟩ := update_step_iff.mp updated
      exact isDistinct_put distinct _ (ih inside (enters.isDistinct inside distinct) done)

/-- Two changes at places that are apart. Once one of them is made, the other can be made just if
it could be made before, and then both orders come to values that look the same. -/
theorem update_apart {second : Route} (another : Value → Except EditError Value)
    (leads : field.Leads route leaf) (further : field.Leads second last)
    (apart : Path.Apart (route.map Prod.fst) (second.map Prod.fst))
    (made : value.update change place route = .ok left) :
    (∀ new, left.update another place second = .ok new →
      ∃ right, value.update another place second = .ok right) ∧
    ∀ right, value.update another place second = .ok right →
      ∃ new final, left.update another place second = .ok new ∧
        right.update change place route = .ok final ∧ new.Same final := by
  induction leads generalizing value left place second with
  | here => exact absurd List.nil_prefix apart.1
  | @step field next leaf segment rest first others ih =>
      obtain ⟨below, inner, enters, inside, rfl⟩ := update_step_iff.mp made
      cases further with
      | here => exact absurd List.nil_prefix apart.2
      | @step _ following _ head tail second beyond =>
          by_cases along : head = segment
          · -- both go on in what the first of them leaves, which may only now have come into being
            subst along
            cases first.unique second
            rw [List.map_cons, List.map_cons, Path.Apart.cons_iff] at apart
            obtain ⟨back, forth⟩ := ih beyond apart inside
            constructor
            · intro new done
              obtain ⟨_, deeper, again, deep, rfl⟩ := update_step_iff.mp done
              cases (enters.put_self inner).unique again
              obtain ⟨right, there⟩ := back deeper deep
              exact ⟨_, update_step_iff.mpr ⟨below, right, enters, there, rfl⟩⟩
            · intro right done
              obtain ⟨_, beside, again, deep, rfl⟩ := update_step_iff.mp done
              cases enters.unique again
              obtain ⟨new, final, one, two, alike⟩ := forth beside deep
              refine ⟨_, _, update_step_iff.mpr ⟨inner, new, enters.put_self inner, one, rfl⟩,
                update_step_iff.mpr ⟨beside, final, enters.put_self beside, two, rfl⟩, ?_⟩
              rw [put_put, put_put]
              exact (Same.refl value).put head alike
          · -- here they part, so that each enters what it would have entered without the other
            have backwards : segment ≠ head := fun same => along same.symm
            constructor
            · intro new done
              obtain ⟨beside, deeper, again, deep, rfl⟩ := update_step_iff.mp done
              exact ⟨_, update_step_iff.mpr
                ⟨beside, deeper, (enters_put_iff along).mp again, deep, rfl⟩⟩
            · intro right done
              obtain ⟨beside, deeper, again, deep, rfl⟩ := update_step_iff.mp done
              exact ⟨_, _,
                update_step_iff.mpr ⟨beside, deeper, (enters_put_iff along).mpr again, deep, rfl⟩,
                update_step_iff.mpr ⟨below, inner, (enters_put_iff backwards).mpr enters, inside,
                  rfl⟩, put_same along value inner deeper⟩

end Value

end ResourceEditor
