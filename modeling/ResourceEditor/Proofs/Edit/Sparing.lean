import ResourceEditor.Proofs.Edit.Part
import ResourceEditor.Proofs.Edit.Update
import ResourceEditor.Proofs.Value.Survival
/-
This file shows what edits spare: to set a scalar takes away only what was at its path or below, and
to append to a list takes away nothing.
-/

namespace ResourceEditor

namespace Value

variable {change : Value → Except EditError Value} {place : Path} {value new : Value}

/-- Whatever a step changes, a record stays a record and a list keeps its length. -/
theorem survives_update {step : Segment × Field} {rest : Route}
    (updated : value.update change place (step :: rest) = .ok new) : value.Survives new := by
  obtain ⟨segment, field⟩ := step
  cases segment with
  | field name =>
      obtain ⟨members, below, rfl, _, rfl⟩ := update_member.mp updated
      exact ⟨_, rfl⟩
  | index position =>
      obtain ⟨entries, old, below, rfl, _, _, rfl⟩ := update_entry.mp updated
      exact ⟨_, rfl, Nat.le_of_eq List.length_set.symm⟩

/-- A change at the end of a route spares whatever it spares at its end, and all that lies beside
the route. -/
theorem spares_update {spared : Path → Prop} {route : Route}
    (keeps : ∀ held changed, change held = .ok changed →
      held.Spares (fun rest => spared (route.map Prod.fst ++ rest)) changed)
    (updated : value.update change place route = .ok new) : value.Spares spared new := by
  induction route generalizing spared value new place with
  | nil => exact keeps value new updated
  | cons step rest ih =>
      intro path free held there
      cases path with
      | nil =>
          cases there
          exact ⟨new, at?_nil new, survives_update updated⟩
      | cons segment others =>
          rw [at?_cons] at there
          obtain ⟨inner, first, further⟩ := Option.bind_eq_some_iff.mp there
          obtain ⟨below, inside, found, beside⟩ := step?_of_update updated
          rw [at?_cons]
          by_cases along : segment = step.1
          · subst along
            rw [first, Option.getD_some] at inside
            rw [found]
            have spares : inner.Spares (fun rest => spared (step.1 :: rest)) below :=
              ih keeps inside
            exact spares others free held further
          · rw [beside segment along, first]
            exact ⟨held, further, .refl held⟩

theorem spares_push {list : Path} {entry held changed : Value} (spared : Path → Prop)
    (grown : Record.push list entry held = .ok changed) : held.Spares spared changed := by
  cases held with
  | list entries =>
      cases grown
      intro path _ held there
      cases path with
      | nil =>
          cases there
          exact ⟨_, at?_nil _, _, rfl, by simp⟩
      | cons segment rest =>
          rw [at?_cons] at there
          obtain ⟨inner, first, further⟩ := Option.bind_eq_some_iff.mp there
          cases segment with
          | field name => cases first
          | index position =>
              have within := (List.getElem?_eq_some_iff.mp first).1
              refine ⟨held, ?_, .refl held⟩
              rw [at?_cons, step?_list, List.getElem?_append_left within]
              rw [step?_list] at first
              rw [first]
              exact further
  | _ => cases grown

end Value

namespace Record

variable {schema : Schema} {model next : Record} {path : Path}

/-- What one edit does to the form spares what its change spares. -/
theorem spares_apply {spared : Path → Prop} {part : Part}
    (keeps : ∀ leaf change, part.Change leaf change → ∀ held changed, change held = .ok changed →
      held.Spares (fun rest => spared (part.path ++ rest)) changed)
    (applied : part.apply schema model = .ok next) :
    (Value.record model).Spares spared (.record next) := by
  obtain ⟨route, leaf, change, updates⟩ := Part.updates_of_apply applied
  refine Value.spares_update (fun held changed given => ?_) (updates.update_of_apply applied)
  rw [updates.along]
  exact keeps leaf change updates.changes held changed given

/-- To set a scalar spares every path that does not go through the path of the scalar. -/
theorem spares_setScalar {raw : String} (done : setScalar schema model path raw = .ok next) :
    (Value.record model).Spares (fun other => ¬ path <+: other) (.record next) := by
  have applied : (Part.set path raw).apply schema model = .ok next := done
  refine spares_apply (fun leaf change _ held changed _ rest free => ?_) applied
  exact absurd (List.prefix_append path rest) free

/-- To append to a list spares every path. -/
theorem spares_append {list : Path} (spared : Path → Prop)
    (done : append schema model list = .ok next) :
    (Value.record model).Spares spared (.record next) := by
  have applied : (Part.append list).apply schema model = .ok next := done
  refine spares_apply (fun leaf change changes held changed given => ?_) applied
  cases changes with
  | append shape grows => exact Value.spares_push _ given

end Record

end ResourceEditor
