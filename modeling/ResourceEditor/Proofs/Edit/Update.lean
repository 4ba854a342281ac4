import ResourceEditor.Edit.Basic
import ResourceEditor.Proofs.Edit.Route
import ResourceEditor.Proofs.Value.Lookup
/-
This file takes changes along routes apart, one step of the route at a time.
-/

namespace ResourceEditor

variable {change : Value → Except EditError Value} {path : Path} {route rest : Route}
  {field leaf : Field}

namespace Value

/-- A step to a name needs a record, and puts the member there that comes out below. -/
theorem update_member {name : String} {value new : Value} :
    value.update change path ((.field name, field) :: rest) = .ok new ↔
      ∃ members below, value = .record members ∧
        (Record.memberOrBlank members name field).update change (path.child name) rest =
          .ok below ∧ new = .record (Members.set members name below) := by
  cases value with
  | record members =>
      rw [update, bind_eq_ok_iff]
      constructor
      · rintro ⟨below, changed, same⟩
        cases same
        exact ⟨members, below, rfl, changed, rfl⟩
      · rintro ⟨_, below, same, changed, rfl⟩
        cases same
        exact ⟨below, changed, rfl⟩
  | _ => simp [update]

/-- A step to a position needs a list that has an entry there, and changes that entry alone. -/
theorem update_entry {position : Nat} {value new : Value} :
    value.update change path ((.index position, field) :: rest) = .ok new ↔
      ∃ entries old below, value = .list entries ∧ entries[position]? = some old ∧
        old.update change (path.entry position) rest = .ok below ∧
        new = .list (entries.set position below) := by
  cases value with
  | list entries =>
      rw [update]
      cases there : entries[position]? with
      | none => simp [there]
      | some old =>
          dsimp only
          rw [bind_eq_ok_iff]
          constructor
          · rintro ⟨below, changed, same⟩
            cases same
            exact ⟨entries, old, below, rfl, there, changed, rfl⟩
          · rintro ⟨_, _, below, same, again, changed, rfl⟩
            cases same
            rw [there] at again
            cases again
            exact ⟨below, changed, rfl⟩
  | _ => simp [update]

/-- A step goes on in what is there, or in a blank value, and leaves alone all that lies beside
it. -/
theorem step?_of_update {segment : Segment} {value new : Value}
    (updated : value.update change path ((segment, field) :: rest) = .ok new) :
    ∃ below,
      ((value.step? segment).getD field.blankEntry).update change (path ++ [segment]) rest =
        .ok below ∧
      new.step? segment = some below ∧
      ∀ other, other ≠ segment → new.step? other = value.step? other := by
  cases segment with
  | field name =>
      obtain ⟨members, below, rfl, inside, rfl⟩ := update_member.mp updated
      refine ⟨below, inside, ?_, fun other apart => ?_⟩
      · rw [step?_record, Members.get?_set, if_pos rfl]
      · cases other with
        | field another =>
            have different : name ≠ another := fun same => apart (congrArg _ same.symm)
            rw [step?_record, step?_record, Members.get?_set, if_neg different]
        | index position => rfl
  | index position =>
      obtain ⟨entries, old, below, rfl, found, inside, rfl⟩ := update_entry.mp updated
      have within : position < entries.length := (List.getElem?_eq_some_iff.mp found).1
      rw [step?_list, found]
      refine ⟨below, inside, ?_, fun other apart => ?_⟩
      · rw [step?_list, List.getElem?_set_self within]
      · cases other with
        | field name => rfl
        | index another =>
            have different : position ≠ another := fun same => apart (congrArg _ same.symm)
            rw [step?_list, step?_list, List.getElem?_set_ne different]

/-- What the change gives is found at the end of the route. -/
theorem at?_of_update {value new : Value} (updated : value.update change path route = .ok new) :
    ∃ held changed, change held = .ok changed ∧
      new.at? (route.map Prod.fst) = some changed := by
  induction route generalizing value new path with
  | nil => exact ⟨value, new, updated, at?_nil new⟩
  | cons step rest ih =>
      obtain ⟨segment, field⟩ := step
      obtain ⟨below, inside, found, -⟩ := step?_of_update updated
      rw [List.map_cons, at?_cons, found]
      exact ih inside

end Value

/-- To change a form is to change it as a value of the field that it is the value of. -/
theorem Record.update_whole {schema : Schema} (model : Record)
    (leads : schema.whole.Leads route leaf) (some : route ≠ []) :
    (Value.record model).update change [] route = (model.update change route).map .record := by
  have outside (inside : Except EditError Value) (set : Value → Record) :
      (inside >>= fun below => pure (Value.record (set below))) =
        (inside >>= fun below => pure (set below)).map .record := by
    cases inside <;> rfl
  cases leads with
  | here => exact absurd rfl some
  | step first others =>
      cases first with
      | member shape declared editable =>
          rw [Value.update, Record.update]
          exact outside _ _
      | entry shape => cases shape

theorem Record.update_ok {schema : Schema} {model next : Record}
    (leads : schema.whole.Leads route leaf) (some : route ≠ [])
    (updated : model.update change route = .ok next) :
    (Value.record model).update change [] route = .ok (.record next) := by
  rw [Record.update_whole model leads some, updated]
  rfl

end ResourceEditor
