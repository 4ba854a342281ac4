import ResourceEditor.Proofs.Edit.Appending
/-
This file shows what it comes to when several lists are reset together: each has its next entry
alone afterwards, in whatever order they are reset, and to reset them again changes nothing.
-/

namespace ResourceEditor

namespace Path

/-- None of the paths lies below another one. -/
def Separate (paths : List Path) : Prop :=
  ∀ path ∈ paths, ∀ other ∈ paths, path <+: other → path = other

/-- Two of several paths of which none lies below another one are apart, if they are two. -/
theorem Separate.eq_or_apart {paths : List Path} (separate : Separate paths) {path other : Path}
    (member : path ∈ paths) (another : other ∈ paths) : path = other ∨ path.Apart other := by
  by_cases below : path <+: other
  · exact .inl (separate path member other another below)
  · by_cases above : other <+: path
    · exact .inl (separate other another path member above).symm
    · exact .inr ⟨below, above⟩

end Path

namespace Record

variable {schema : Schema} {model next : Record} {path other : Path} {paths : List Path}

theorem resetLists_eq_foldlM (schema : Schema) (model : Record) (paths : List Path) :
    resetLists schema model paths = (paths.map Part.reset).foldlM (Part.apply schema) model :=
  Edit.apply_eq_foldlM schema model (.reset paths)

/-- A list has the schema's next entry and no other. -/
def IsReset (schema : Schema) (model : Record) (path : Path) : Prop :=
  ∃ leaf entry, schema.whole.Reaches path leaf ∧ leaf.nextEntry? = some entry ∧
    model.at? path = some (.list [entry])

theorem isReset_of_resetList (done : resetList schema model path = .ok next) :
    IsReset schema next path := by
  have applied : (Part.reset path).apply schema model = .ok next := done
  obtain ⟨route, leaf, change, updates⟩ := Part.updates_of_apply applied
  have along : route.map Prod.fst = path := updates.along
  have some : path ≠ [] := updates.some
  cases updates.changes with
  | reset shape =>
      obtain ⟨_, changed, given, reached⟩ := Value.at?_of_update (updates.update_of_apply applied)
      cases given
      obtain ⟨start, grows⟩ := Field.nextEntry?_eq shape
      rw [grows, along, ← at?_of_ne_nil next some] at reached
      exact ⟨leaf, _, ⟨route, updates.leads, along⟩, grows, reached⟩

/-- To reset a list that has its next entry alone changes nothing. -/
theorem IsReset.resetList (reset : IsReset schema model path) :
    resetList schema model path = .ok model := by
  obtain ⟨leaf, entry, reaches, grows, there⟩ := reset
  obtain ⟨route, leads, some, rfl, listed⟩ := listRoute_of_reaches reaches grows
  rw [at?_of_ne_nil model (by simpa using some)] at there
  have same : (Value.record model).update (fun _ => .ok (.list leaf.nextEntry?.toList)) [] route =
      .ok (.record model) := Value.update_of_at? there (by rw [grows]; rfl) []
  rw [update_whole model leads some] at same
  rw [Record.resetList, listed]
  exact map_record_inj same

/-- To reset one of several lists leaves those reset that are. -/
theorem IsReset.kept (reset : IsReset schema model path) (apart : other = path ∨ other.Apart path)
    (done : Record.resetList schema model other = .ok next) : IsReset schema next path := by
  obtain rfl | apart := apart
  · exact isReset_of_resetList done
  · obtain ⟨leaf, entry, reaches, grows, there⟩ := reset
    have applied : (Part.reset other).apply schema model = .ok next := done
    exact ⟨leaf, entry, reaches, grows, Part.at?_apply_of_at? applied apart there⟩

/-- What holds of a form and is kept when any of the lists is reset, holds when all of them are. -/
theorem resetLists_invariant (invariant : Record → Prop) (initial : invariant model)
    (keeps : ∀ path ∈ paths, ∀ model next, invariant model →
      resetList schema model path = .ok next → invariant next)
    (done : resetLists schema model paths = .ok next) : invariant next := by
  rw [resetLists_eq_foldlM] at done
  refine Part.foldlM_invariant (fun part member => ?_) initial done
  obtain ⟨path, named, rfl⟩ := List.mem_map.mp member
  exact keeps path named

theorem isReset_of_resetLists (separate : Path.Separate paths)
    (done : resetLists schema model paths = .ok next) (member : path ∈ paths) :
    IsReset schema next path := by
  -- what is reset before the list does not matter, and what is reset after it is no part of it
  obtain ⟨front, rest, rfl⟩ := List.append_of_mem member
  rw [resetLists, List.foldlM_append] at done
  obtain ⟨before, _, later⟩ := bind_eq_ok_iff.mp done
  rw [List.foldlM_cons] at later
  obtain ⟨reached, first, others⟩ := bind_eq_ok_iff.mp later
  refine resetLists_invariant (IsReset schema · path) (isReset_of_resetList first) ?_ others
  intro other named model next reset done
  exact reset.kept (separate.eq_or_apart (List.mem_append_right _ (List.mem_cons_of_mem _ named))
    member) done

theorem resetLists_of_isReset (each : ∀ path ∈ paths, IsReset schema model path) :
    resetLists schema model paths = .ok model := by
  induction paths with
  | nil => rfl
  | cons path rest ih =>
      obtain ⟨reset, others⟩ := List.forall_mem_cons.mp each
      rw [resetLists, List.foldlM_cons, reset.resetList]
      exact ih others

theorem isDistinct_resetLists (fresh : schema.isDistinct = true)
    (distinct : model.isDistinct = true) (done : resetLists schema model paths = .ok next) :
    next.isDistinct = true := by
  refine resetLists_invariant (·.isDistinct = true) distinct ?_ done
  intro path _ model next distinct done
  have applied : (Part.reset path).apply schema model = .ok next := done
  exact Part.isDistinct_apply fresh (fun _ _ => Part.noConfusion) distinct applied

/-- The resets of lists of which none lies below another one tolerate each other. -/
theorem tolerant_resets (separate : Path.Separate paths) :
    (paths.map Part.reset).Pairwise Part.Tolerates := by
  refine List.pairwise_map.mpr
    (List.pairwise_of_forall_mem_list fun path member other another => ?_)
  exact (separate.eq_or_apart member another).imp_left (congrArg Part.reset)

/-- Lists can be reset together just if each of them can be reset alone. -/
theorem resetLists_isOk_iff (separate : Path.Separate paths) :
    (∃ next, resetLists schema model paths = .ok next) ↔
      ∀ path ∈ paths, ∃ next, resetList schema model path = .ok next := by
  rw [resetLists_eq_foldlM, Part.foldlM_isOk_iff (tolerant_resets separate), List.forall_mem_map]
  rfl

/-- Several lists of which none lies below another one are reset together, or the reset fails as a
whole, which it does just if it would fail for one of them alone. Each list then has the schema's
next entry alone, and everything beside them is as it was. In every other order the lists can be
reset as well, to an equal form, and to reset any of them again changes nothing. -/
theorem resetLists_together (schema : Schema) (model : Record) (paths : List Path)
    (fresh : schema.isDistinct = true) (distinct : model.isDistinct = true)
    (separate : Path.Separate paths) :
    ((∃ error, resetLists schema model paths = .error error) ↔
      ∃ path ∈ paths, ∃ error, resetList schema model path = .error error) ∧
    ∀ next, resetLists schema model paths = .ok next →
      (∀ path ∈ paths, IsReset schema next path) ∧
      (∀ other held, (∀ path ∈ paths, path.Apart other) → model.at? other = some held →
        next.at? other = some held) ∧
      (∀ order, order.Perm paths → ∃ last, resetLists schema model order = .ok last ∧
        next.equals last = true) ∧
      ∀ again, again ⊆ paths → resetLists schema next again = .ok next := by
  have fails {attempt : Except EditError Record} :
      (∃ error, attempt = .error error) ↔ ¬ ∃ next, attempt = .ok next := by
    cases attempt <;> simp
  refine ⟨?_, fun next done => ⟨fun path => isReset_of_resetLists separate done,
    fun other held apart there => ?_, fun order perm => ?_, fun again named => ?_⟩⟩
  · rw [fails, resetLists_isOk_iff separate]
    simp only [fails, not_forall, exists_prop]
  · refine resetLists_invariant (·.at? other = some held) there ?_ done
    intro path named model next there done
    have applied : (Part.reset path).apply schema model = .ok next := done
    exact Part.at?_apply_of_at? applied (apart path named) there
  · have parts : (paths.map Part.reset).Perm (order.map Part.reset) := perm.symm.map _
    have made := resetLists_eq_foldlM schema model paths ▸ done
    obtain ⟨last, others, same⟩ := Part.foldlM_perm parts (tolerant_resets separate) made
    rw [← resetLists_eq_foldlM] at others
    exact ⟨last, others, equals_of_same (isDistinct_resetLists fresh distinct done)
      (isDistinct_resetLists fresh distinct others) same⟩
  · exact resetLists_of_isReset fun path member =>
      isReset_of_resetLists separate done (named member)

/-- The lists of two filters, which are both missing together with their source, are reset in either
order. -/
theorem bareRule_resets :
    let imsis := rulePath ["source", "gtp_filter", "imsis"]
    let addresses := rulePath ["source", "mac_filter", "mac_addresses"]
    ∃ next last, resetLists .trafficPolicy bareRule [imsis, addresses] = .ok next ∧
      IsReset .trafficPolicy next imsis ∧ IsReset .trafficPolicy next addresses ∧
      next.at? (rulePath ["priority"]) = some (.int 1) ∧
      resetLists .trafficPolicy bareRule [addresses, imsis] = .ok last ∧
      next.equals last = true ∧ resetLists .trafficPolicy next [addresses] = .ok next := by
  intro imsis addresses
  have distinct : Schema.trafficPolicy.isDistinct = true := by decide
  have maps : bareRule.isDistinct = true := by decide
  have separate : Path.Separate [imsis, addresses] := by
    rw [Path.Separate]
    decide
  obtain ⟨next, done⟩ : ∃ next,
      resetLists .trafficPolicy bareRule [imsis, addresses] = .ok next := ⟨_, rfl⟩
  obtain ⟨reset, kept, reordered, again⟩ :=
    (resetLists_together _ _ _ distinct maps separate).2 next done
  obtain ⟨last, others, equal⟩ := reordered [addresses, imsis] (List.Perm.swap ..)
  refine ⟨next, last, done, reset _ (by simp), reset _ (by simp), kept _ _ ?_ rfl, others, equal,
    again _ (by simp)⟩
  decide

end Record

end ResourceEditor
