import ResourceEditor.Proofs.Edit.Part
/-
This file holds the edits of a form and runs of them. An edit changes one place after the other, and
one that fails leaves the form as it was.
-/

namespace ResourceEditor

/-- The edits that a form offers. -/
inductive Edit where
  | set (path : Path) (raw : String)
  | setEntry (list : Path) (position : Nat) (name raw : String)
  | append (list : Path)
  | appendWith (list : Path) (entry : Value)
  | reset (lists : List Path)

namespace Edit

def apply (schema : Schema) (model : Record) : Edit → Except EditError Record
  | .set path raw => Record.setScalar schema model path raw
  | .setEntry list position name raw => Record.setEntryField schema model list position name raw
  | .append list => Record.append schema model list
  | .appendWith list entry => Record.appendWith schema model list entry
  | .reset lists => Record.resetLists schema model lists

/-- Whether an edit brings along an entry of its own. -/
def bringsEntry : Edit → Bool
  | .appendWith _ _ => true
  | _ => false

/-- The edits of one place that an edit makes, one after the other. -/
def parts : Edit → List Part
  | .set path raw => [.set path raw]
  | .setEntry list position name raw => [.set ((list.entry position).child name) raw]
  | .append list => [.append list]
  | .appendWith list entry => [.appendWith list entry]
  | .reset lists => lists.map .reset

/-- An edit has one part, unless it resets lists. -/
theorem parts_cases (edit : Edit) :
    (∃ part, edit.parts = [part]) ∨ ∀ part ∈ edit.parts, ∃ list, part = .reset list := by
  cases edit with
  | reset lists =>
      right
      intro part member
      obtain ⟨list, _, rfl⟩ := List.mem_map.mp member
      exact ⟨list, rfl⟩
  | _ => exact .inl ⟨_, rfl⟩

end Edit

theorem Part.foldlM_single (schema : Schema) (model : Record) (part : Part) :
    [part].foldlM (Part.apply schema) model = part.apply schema model := by
  rw [List.foldlM_cons]
  cases part.apply schema model <;> rfl

theorem Edit.apply_eq_foldlM (schema : Schema) (model : Record) (edit : Edit) :
    edit.apply schema model = edit.parts.foldlM (Part.apply schema) model := by
  cases edit with
  | reset lists =>
      rw [parts, List.foldlM_map]
      rfl
  | _ =>
      rw [parts, Part.foldlM_single]
      rfl

namespace Part

variable {schema : Schema} {invariant : Record → Prop}

/-- What each part keeps, all of them together keep. -/
theorem foldlM_invariant {parts : List Part}
    (keeps : ∀ part ∈ parts, ∀ model next, invariant model → part.apply schema model = .ok next →
      invariant next) {model next : Record} (initial : invariant model)
    (edited : parts.foldlM (Part.apply schema) model = .ok next) : invariant next := by
  induction parts generalizing model with
  | nil =>
      cases edited
      exact initial
  | cons part rest ih =>
      rw [List.foldlM_cons] at edited
      obtain ⟨reached, first, others⟩ := bind_eq_ok_iff.mp edited
      obtain ⟨here, later⟩ := List.forall_mem_cons.mp keeps
      exact ih later (here model reached initial first) others

/-- When parts fail, one of them does, at a form that the ones before it reach. -/
theorem foldlM_error {parts : List Part}
    (keeps : ∀ part ∈ parts, ∀ model next, invariant model → part.apply schema model = .ok next →
      invariant next) {model : Record} {error : EditError} (initial : invariant model)
    (failed : parts.foldlM (Part.apply schema) model = .error error) :
    ∃ part ∈ parts, ∃ reached, invariant reached ∧ part.apply schema reached = .error error := by
  induction parts generalizing model with
  | nil => cases failed
  | cons part rest ih =>
      rw [List.foldlM_cons] at failed
      obtain ⟨here, later⟩ := List.forall_mem_cons.mp keeps
      obtain stopped | ⟨reached, first, others⟩ := bind_eq_error_iff.mp failed
      · exact ⟨part, List.mem_cons_self, model, initial, stopped⟩
      · obtain ⟨culprit, member, found⟩ := ih later (here model reached initial first) others
        exact ⟨culprit, List.mem_cons_of_mem _ member, found⟩

end Part

namespace Record

/-- The form after an edit, whether the edit succeeds or fails. -/
def edited (schema : Schema) (model : Record) (edit : Edit) : Record :=
  match edit.apply schema model with
  | .ok next => next
  | .error _ => model

/-- The form after a run of edits. -/
def afterEdits (schema : Schema) (model : Record) (edits : List Edit) : Record :=
  edits.foldl (edited schema) model

/-- What a run of edits makes of a new form. -/
def ofEdits (schema : Schema) (edits : List Edit) : Record :=
  schema.blankRecord.afterEdits schema edits

/-- What each part of each edit keeps, a run of edits keeps. -/
theorem afterEdits_invariant {schema : Schema} (invariant : Record → Prop) {edits : List Edit}
    (keeps : ∀ edit ∈ edits, ∀ part ∈ edit.parts, ∀ model next, invariant model →
      part.apply schema model = .ok next → invariant next) {model : Record}
    (initial : invariant model) : invariant (model.afterEdits schema edits) := by
  induction edits generalizing model with
  | nil => exact initial
  | cons edit rest ih =>
      obtain ⟨here, later⟩ := List.forall_mem_cons.mp keeps
      refine ih later ?_
      rw [edited]
      cases applied : edit.apply schema model with
      | error error => exact initial
      | ok next =>
          rw [Edit.apply_eq_foldlM] at applied
          exact Part.foldlM_invariant here initial applied

end Record

end ResourceEditor
