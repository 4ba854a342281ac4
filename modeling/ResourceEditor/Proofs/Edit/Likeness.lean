import ResourceEditor.Proofs.Edit.Resetting
import ResourceEditor.Proofs.Validation.Likeness
/-
This file shows that in which order the members of a form came up does not matter: equal forms have
one report, are edited to equal forms or refused for one reason, and are equal when they are pruned.
-/

namespace ResourceEditor

namespace Record

/-- Two forms look the same, and in neither of them a record has two members of one name. -/
def Alike (model other : Record) : Prop := (Value.record model).Alike (.record other)

/-- Two attempts concur: they fail for one reason, or come to forms that are related. -/
inductive Concur (related : Record → Record → Prop) :
    Except EditError Record → Except EditError Record → Prop where
  | error (error : EditError) : Concur related (.error error) (.error error)
  | ok {next last : Record} (held : related next last) : Concur related (.ok next) (.ok last)

variable {related : Record → Record → Prop} {first second : Except EditError Record}

theorem Concur.mono {weaker : Record → Record → Prop}
    (implies : ∀ next last, related next last → weaker next last)
    (concur : Concur related first second) : Concur weaker first second := by
  cases concur with
  | error error => exact .error error
  | ok held => exact .ok (implies _ _ held)

theorem Concur.of_ok {next : Record} (concur : Concur related (.ok next) second) :
    ∃ last, second = .ok last ∧ related next last := by
  cases concur with
  | ok held => exact ⟨_, rfl, held⟩

theorem Concur.of_error {error : EditError} (concur : Concur related (.error error) second) :
    second = .error error := by
  cases concur with
  | error => rfl

theorem Concur.bind {further : Record → Except EditError Record}
    (concur : Concur related first second)
    (later : ∀ next last, related next last → Concur related (further next) (further last)) :
    Concur related (first >>= further) (second >>= further) := by
  cases concur with
  | error error => exact .error error
  | ok held => exact later _ _ held

end Record

section Edits

variable {schema : Schema} {model other : Record}

/-- An edit of one place concurs on forms that look the same, unless it brings along an entry in
which a record has two members of one name. -/
theorem Part.apply_concurs {part : Part} (fresh : schema.isDistinct = true)
    (own : ∀ list entry, part = .appendWith list entry → entry.isDistinct = true)
    (alike : model.Alike other) :
    Record.Concur Record.Alike (part.apply schema model) (part.apply schema other) := by
  cases done : part.apply schema model with
  | ok next =>
      obtain ⟨last, again, same⟩ := apply_same alike.same done
      rw [again]
      exact .ok ⟨same, isDistinct_apply fresh own alike.distinct done,
        isDistinct_apply fresh own alike.also again⟩
  | error error =>
      have agree := apply_agrees schema part alike.same
      rw [done] at agree
      rw [map_eq_error_iff.mp agree.of_error]
      exact .error error

theorem Part.foldlM_concurs {parts : List Part} (fresh : schema.isDistinct = true)
    (own : ∀ list entry, Part.appendWith list entry ∈ parts → entry.isDistinct = true)
    (alike : model.Alike other) :
    Record.Concur Record.Alike (parts.foldlM (apply schema) model)
      (parts.foldlM (apply schema) other) := by
  induction parts generalizing model other with
  | nil => exact .ok alike
  | cons part rest ih =>
      rw [List.foldlM_cons, List.foldlM_cons]
      refine (apply_concurs fresh ?_ alike).bind fun next last alike => ih ?_ alike
      · rintro list entry rfl
        exact own list entry List.mem_cons_self
      · exact fun list entry member => own list entry (List.mem_cons_of_mem _ member)

theorem Edit.apply_concurs {edit : Edit} (fresh : schema.isDistinct = true)
    (own : edit.bringsEntry = false) (alike : model.Alike other) :
    Record.Concur Record.Alike (edit.apply schema model) (edit.apply schema other) := by
  rw [apply_eq_foldlM, apply_eq_foldlM]
  refine Part.foldlM_concurs fresh (fun list entry member => ?_) alike
  cases edit with
  | appendWith list entry => cases own
  | reset lists =>
      obtain ⟨_, _, never⟩ := List.mem_map.mp member
      cases never
  | _ => cases List.mem_singleton.mp member

end Edits

namespace Record

variable {schema : Schema} {model other : Record}

theorem alike_of_equals (distinct : model.isDistinct = true) (also : other.isDistinct = true)
    (equal : model.equals other = true) : model.Alike other :=
  ⟨(Value.equals_iff_same distinct also).mp equal, distinct, also⟩

theorem Alike.equals (alike : model.Alike other) : model.equals other = true :=
  equals_of_same alike.distinct alike.also alike.same

theorem Alike.pruned (alike : model.Alike other) : model.pruned.Alike other.pruned := by
  have left := (alike.same.prunesAlike alike.distinct alike.also).entry
  have distinct := (Value.record model).isDistinct_pruneEntry alike.distinct
  have also := (Value.record other).isDistinct_pruneEntry alike.also
  rw [Value.pruneEntry_record] at left distinct also
  rw [Value.pruneEntry_record] at left
  exact ⟨left, distinct, also⟩

/-- Nothing tells equal forms apart: they have the same violations in the same order, an edit with
the same arguments fails for them with the same error or makes them equal forms, and what is left of
them when they are pruned is equal. -/
theorem equals_congruent (schema : Schema) (model other : Record)
    (fresh : schema.isDistinct = true) (distinct : model.isDistinct = true)
    (also : other.isDistinct = true) (equal : model.equals other = true) :
    model.violations schema = other.violations schema ∧
    (∀ path raw, Concur (·.equals · = true) (setScalar schema model path raw)
      (setScalar schema other path raw)) ∧
    (∀ list, Concur (·.equals · = true) (append schema model list) (append schema other list)) ∧
    (∀ lists, Concur (·.equals · = true) (resetLists schema model lists)
      (resetLists schema other lists)) ∧
    model.pruned.equals other.pruned = true := by
  have alike := alike_of_equals distinct also equal
  have edits (edit : Edit) (own : edit.bringsEntry = false) :
      Concur (·.equals · = true) (edit.apply schema model) (edit.apply schema other) :=
    (Edit.apply_concurs fresh own alike).mono fun _ _ => Alike.equals
  exact ⟨schema.tellsNoneApart [] model other alike, fun path raw => edits (.set path raw) rfl,
    fun list => edits (.append list) rfl, fun lists => edits (.reset lists) rfl,
    alike.pruned.equals⟩

section Turned

/-- A policy with one rule, which has a priority that is out of range and a blank description. -/
def draftPolicy : Record :=
  [("name", .text "p"), ("traffic_rules", .list [.record
    [("priority", .int 0), ("description", .text "")]])]

/-- The same policy as if it had been filled in from its end. -/
def turnedPolicy : Record :=
  [("traffic_rules", .list [.record [("description", .text ""), ("priority", .int 0)]]),
    ("name", .text "p")]

theorem turnedPolicy_congruent :
    let mask := rulePath ["source", "ip_filter", "mask"]
    let priority := rulePath ["priority"]
    Schema.trafficPolicy.isDistinct = true ∧ draftPolicy.isDistinct = true ∧
      turnedPolicy.isDistinct = true ∧ draftPolicy.equals turnedPolicy = true ∧
      turnedPolicy.violations .trafficPolicy =
        [⟨priority, .outOfRange "Priority" (some 1) (some 65535)⟩] ∧
      (∃ next last, setScalar .trafficPolicy draftPolicy mask "24" = .ok next ∧
        setScalar .trafficPolicy turnedPolicy mask "24" = .ok last ∧ next.equals last = true) ∧
      append .trafficPolicy turnedPolicy priority = .error (.typeMismatch priority .list) ∧
      draftPolicy.pruned.equals turnedPolicy.pruned = true := by
  intro mask priority
  have fresh : Schema.trafficPolicy.isDistinct = true := by decide
  have distinct : draftPolicy.isDistinct = true := by decide
  have also : turnedPolicy.isDistinct = true := by decide
  have equal : draftPolicy.equals turnedPolicy = true := by decide
  obtain ⟨report, sets, appends, _, left⟩ :=
    equals_congruent .trafficPolicy draftPolicy turnedPolicy fresh distinct also equal
  obtain ⟨next, done⟩ : ∃ next, setScalar .trafficPolicy draftPolicy mask "24" = .ok next :=
    ⟨_, rfl⟩
  obtain ⟨last, again, same⟩ := (done ▸ sets mask "24").of_ok
  have refused : append .trafficPolicy draftPolicy priority =
      .error (.typeMismatch priority .list) := rfl
  exact ⟨fresh, distinct, also, equal, report.symm.trans rfl, ⟨next, last, done, again, same⟩,
    (refused ▸ appends priority).of_error, left⟩

end Turned

end Record

end ResourceEditor
