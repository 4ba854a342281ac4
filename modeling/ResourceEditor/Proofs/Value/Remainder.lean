import ResourceEditor.Proofs.Value.Distinct
import ResourceEditor.Proofs.Value.Survival
/-
This file shows that pruning loses nothing that was filled in and moves nothing: what is left at a
path is what is left of the value that was there, and it is left in the same order.
-/

namespace ResourceEditor

namespace Value

variable {value kept : Value} {path : Path}

theorem isScalar_pruneEntry (value : Value) : value.pruneEntry.isScalar = value.isScalar := by
  cases value with
  | record members => rw [pruneEntry_record]; rfl
  | list entries => rw [pruneEntry_list]; rfl
  | _ => rw [pruneEntry_of_isScalar rfl]

/-- What is left at a step is what is left of the value that was there. -/
theorem step?_of_pruneEntry {segment : Segment} (distinct : value.isDistinct = true)
    (there : value.pruneEntry.step? segment = some kept) :
    ∃ below, value.step? segment = some below ∧ kept = below.pruneEntry := by
  cases segment with
  | field name =>
      obtain ⟨left, same, _⟩ := record_of_step? there
      obtain other | ⟨members, rfl⟩ := value.record?_cases
      · have none : value.pruneEntry.record? = none := by rw [record?_pruneEntry, other]; rfl
        rw [same] at none
        cases none
      · rw [pruneEntry_record, step?_record,
          get?_pruneMembers ((isDistinct_record members).mp distinct).1] at there
        obtain ⟨below, found, stays⟩ := Option.bind_eq_some_iff.mp there
        exact ⟨below, found, (eq_of_prune stays).1⟩
  | index position =>
      obtain ⟨left, same, _⟩ := list_of_step? there
      obtain other | ⟨entries, rfl⟩ := value.list?_cases
      · have none : value.pruneEntry.list? = none := by rw [list?_pruneEntry, other]; rfl
        rw [same] at none
        cases none
      · rw [pruneEntry_list, step?_list, List.getElem?_map] at there
        obtain ⟨below, found, rfl⟩ := Option.map_eq_some_iff.mp there
        exact ⟨below, found, rfl⟩

theorem at?_of_pruneEntry (distinct : value.isDistinct = true)
    (there : value.pruneEntry.at? path = some kept) :
    ∃ held, value.at? path = some held ∧ kept = held.pruneEntry := by
  induction path generalizing value with
  | nil =>
      cases there
      exact ⟨value, at?_nil value, rfl⟩
  | cons segment rest ih =>
      rw [at?_cons] at there
      obtain ⟨left, first, others⟩ := Option.bind_eq_some_iff.mp there
      obtain ⟨below, found, rfl⟩ := step?_of_pruneEntry distinct first
      obtain ⟨held, reached, same⟩ := ih (isDistinct_of_step? distinct found) others
      exact ⟨held, by rw [at?_cons, found, Option.bind_some, reached], same⟩

/-- To prune members that stay once more changes nothing. -/
theorem pruneMembers_idem {members : Record}
    (each : ∀ pair ∈ members, ∀ kept, pair.2.prune = some kept → kept.prune = some kept) :
    pruneMembers (pruneMembers members) = pruneMembers members := by
  induction members with
  | nil => rfl
  | cons pair rest ih =>
      obtain ⟨name, value⟩ := pair
      obtain ⟨here, later⟩ := List.forall_mem_cons.mp each
      rw [pruneMembers]
      cases left : value.prune with
      | none => exact ih later
      | some kept =>
          dsimp only
          rw [pruneMembers, here kept left, ih later]

/-- What is left of a value is left of it when it is pruned again. -/
theorem pruneEntry_idem (value : Value) :
    value.pruneEntry.pruneEntry = value.pruneEntry ∧
      ∀ kept, value.prune = some kept → kept.prune = some kept := by
  refine descent (fun value => value.pruneEntry.pruneEntry = value.pruneEntry ∧
    ∀ kept, value.prune = some kept → kept.prune = some kept) ?_ ?_ ?_ value
  · intro value scalar
    have same := pruneEntry_of_isScalar scalar
    refine ⟨by rw [same, same], fun kept left => ?_⟩
    obtain ⟨rfl, _⟩ := eq_of_prune left
    rw [same] at left ⊢
    exact left
  · intro members each
    have again := pruneMembers_idem fun pair member => (each pair member).2
    have whole : (record members).pruneEntry.pruneEntry = (record members).pruneEntry := by
      rw [pruneEntry_record, pruneEntry_record, again]
    refine ⟨whole, fun kept left => ?_⟩
    obtain ⟨rfl, _⟩ := eq_of_prune left
    obtain gone | ⟨stays, _⟩ := (record members).pruneEntry.prune_cases
    · rw [pruneEntry_record, prune_record_eq_none, again] at gone
      rw [prune_record_eq_none.mpr gone] at left
      cases left
    · rw [stays, whole]
  · intro entries each
    have again : (entries.map pruneEntry).map pruneEntry = entries.map pruneEntry := by
      rw [List.map_map]
      exact List.map_congr_left fun entry member => (each entry member).1
    refine ⟨by rw [pruneEntry_list, pruneEntry_list, again], fun kept left => ?_⟩
    obtain ⟨rfl, _⟩ := eq_of_prune left
    rw [pruneEntry_list, prune, pruneEntries_eq_map, again]

end Value

namespace Record

variable {model : Record} {path : Path} {kept held : Value}

theorem record_pruned (model : Record) :
    Value.record model.pruned = (Value.record model).pruneEntry :=
  (Value.pruneEntry_record model).symm

theorem at?_of_pruned (distinct : model.isDistinct = true)
    (there : model.pruned.at? path = some kept) :
    ∃ held, model.at? path = some held ∧ kept = held.pruneEntry := by
  cases path with
  | nil => cases there
  | cons segment rest =>
      rw [at?_of_ne_nil _ (List.cons_ne_nil _ _), record_pruned] at there
      exact Value.at?_of_pruneEntry distinct there

/-- What would stay as a member is left where it is. -/
theorem at?_pruned (there : model.at? path = some held)
    (stays : held.prune = some held.pruneEntry) : model.pruned.at? path = some held.pruneEntry := by
  cases path with
  | nil => cases there
  | cons segment rest =>
      rw [at?_of_ne_nil _ (List.cons_ne_nil _ _)] at there ⊢
      rw [record_pruned]
      exact (Value.at?_pruneEntry there stays).2

/-- Pruning loses nothing and moves nothing. A scalar that is filled in stays where it is. What is
left at a path was there before, the same if it is a scalar, and was filled in just if it still is.
Every list keeps its length. What is gone was empty. The members of each record that is left are in
the order in which they were. To prune again changes nothing. -/
theorem pruned_faithful (model : Record) (distinct : model.isDistinct = true) :
    (∀ path held, model.at? path = some held → held.isScalar = true → held.isEmpty = false →
      model.pruned.at? path = some held) ∧
    (∀ path kept, model.pruned.at? path = some kept → ∃ held, model.at? path = some held ∧
      (kept.isScalar = true ∨ held.isScalar = true → kept = held) ∧
      kept.isEmpty = held.isEmpty) ∧
    (∀ path entries, model.at? path = some (.list entries) →
      ∃ left, model.pruned.at? path = some (.list left) ∧ left.length = entries.length) ∧
    (∀ path held, model.at? path = some held → model.pruned.at? path = none →
      held.isEmpty = true) ∧
    (∀ path left, (Value.record model.pruned).at? path = some (.record left) →
      ∃ members, (Value.record model).at? path = some (.record members) ∧
        (Members.names left).Sublist (Members.names members)) ∧
    model.pruned.pruned = model.pruned := by
  refine ⟨fun path held there scalar filled => ?_, fun path kept there => ?_,
    fun path entries there => ?_, fun path held there gone => ?_, fun path left there => ?_, ?_⟩
  · have stays := at?_pruned there (Value.prune_of_isEmpty filled)
    rwa [Value.pruneEntry_of_isScalar scalar] at stays
  · obtain ⟨held, reached, rfl⟩ := at?_of_pruned distinct there
    refine ⟨held, reached, ?_, held.isEmpty_pruneEntry.1⟩
    rw [held.isScalar_pruneEntry, or_self]
    exact Value.pruneEntry_of_isScalar
  · have stays : (Value.list entries).prune = some (Value.list entries).pruneEntry := by
      rw [Value.prune, Value.pruneEntry]
    have left := at?_pruned there stays
    rw [Value.pruneEntry_list] at left
    exact ⟨_, left, List.length_map _⟩
  · cases empty : held.isEmpty with
    | true => rfl
    | false =>
        have left := at?_pruned there (Value.prune_of_isEmpty empty)
        rw [gone] at left
        cases left
  · rw [record_pruned] at there
    obtain ⟨held, reached, same⟩ := Value.at?_of_pruneEntry distinct there
    have isRecord := held.record?_pruneEntry
    rw [← same] at isRecord
    obtain other | ⟨members, rfl⟩ := held.record?_cases
    · rw [other] at isRecord
      cases isRecord
    · cases isRecord
      exact ⟨members, reached, Value.names_pruneMembers_sublist members⟩
  · have again := (Value.record model).pruneEntry_idem.1
    rw [← record_pruned, ← record_pruned] at again
    exact Value.record.inj again

section Sparse

/-- A policy with two rules: one in which a filter was opened and left blank, and one in which
nothing was filled in. -/
def sparsePolicy : Record :=
  [("description", .text ""), ("name", .text "p"), ("traffic_rules", .list [
    .record [("priority", .int 10), ("source", .record [("ip_filter", .record
      [("address", .text ""), ("mask", .notANumber)])])],
    .record []]),
    ("tags", .list [])]

theorem sparsePolicy_pruned :
    sparsePolicy.isDistinct = true ∧
      sparsePolicy.pruned = [("name", .text "p"), ("traffic_rules", .list [
        .record [("priority", .int 10)], .record []]), ("tags", .list [])] ∧
      sparsePolicy.pruned.at? [.field "traffic_rules", .index 0, .field "priority"] =
        some (.int 10) ∧
      (∃ left, sparsePolicy.pruned.at? [.field "tags"] = some (.list left) ∧ left.length = 0) ∧
      (Value.record [("ip_filter", .record
        [("address", .text ""), ("mask", .notANumber)])]).isEmpty = true ∧
      sparsePolicy.pruned.pruned = sparsePolicy.pruned := by
  have distinct : sparsePolicy.isDistinct = true := by decide
  obtain ⟨scalars, _, lists, empties, _, again⟩ := pruned_faithful sparsePolicy distinct
  exact ⟨distinct, rfl, scalars _ _ rfl rfl rfl, lists _ [] rfl,
    empties [.field "traffic_rules", .index 0, .field "source"] _ rfl rfl, again⟩

end Sparse

end Record

end ResourceEditor
