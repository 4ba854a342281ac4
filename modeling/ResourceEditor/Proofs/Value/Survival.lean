import ResourceEditor.Proofs.Value.Pruned
/-
This file compares what two values hold at the same paths. A scalar that survives is the same one,
and a list that survives has lost no entry.
-/

namespace ResourceEditor

namespace Value

/-- What may become of a value that is not lost: a scalar stays as it is, a list may grow, and a
record is still a record. -/
def Survives : Value → Value → Prop
  | .record _, new => ∃ members, new = .record members
  | .list entries, new => ∃ others, new = .list others ∧ entries.length ≤ others.length
  | scalar, new => new = scalar

theorem survives_iff_of_isScalar {old new : Value} (scalar : old.isScalar = true) :
    old.Survives new ↔ new = old := by
  cases old with
  | record members => cases scalar
  | list entries => cases scalar
  | _ => exact Iff.rfl

theorem Survives.refl (value : Value) : value.Survives value := by
  cases value with
  | record members => exact ⟨members, rfl⟩
  | list entries => exact ⟨entries, rfl, Nat.le_refl _⟩
  | _ => rfl

theorem Survives.trans {old between new : Value} (here : old.Survives between)
    (later : between.Survives new) : old.Survives new := by
  cases old with
  | record members =>
      obtain ⟨others, rfl⟩ := here
      exact later
  | list entries =>
      obtain ⟨others, rfl, grows⟩ := here
      obtain ⟨last, rfl, further⟩ := later
      exact ⟨last, rfl, Nat.le_trans grows further⟩
  | _ =>
      cases here
      exact later

/-- A value that takes the place of another one spares some paths: whatever was there survives. -/
def Spares (spared : Path → Prop) (old new : Value) : Prop :=
  ∀ path, spared path → ∀ held, old.at? path = some held →
    ∃ kept, new.at? path = some kept ∧ held.Survives kept

variable {first second : Path → Prop} {old between new : Value}

theorem Spares.refl (spared : Path → Prop) (value : Value) : value.Spares spared value :=
  fun _ _ held there => ⟨held, there, .refl held⟩

theorem Spares.trans (here : old.Spares first between) (later : between.Spares first new) :
    old.Spares first new := by
  intro path free held there
  obtain ⟨kept, reached, survives⟩ := here path free held there
  obtain ⟨last, found, further⟩ := later path free kept reached
  exact ⟨last, found, survives.trans further⟩

theorem Spares.mono (weaker : ∀ path, second path → first path) (spares : old.Spares first new) :
    old.Spares second new :=
  fun path free => spares path (weaker path free)

/-- Around a value that stays as a member, every value stays. -/
theorem step?_pruneEntry {value below : Value} {segment : Segment}
    (there : value.step? segment = some below) (stays : below.prune = some below.pruneEntry) :
    value.prune = some value.pruneEntry ∧
      value.pruneEntry.step? segment = some below.pruneEntry := by
  cases segment with
  | field name =>
      obtain ⟨members, rfl, held⟩ := record_of_step? there
      have kept : Members.get? (pruneMembers members) name = some below.pruneEntry := by
        rw [pruneMembers_eq_choose]
        exact Members.get?_choose_of_kept held stays
      rw [pruneEntry_record]
      refine ⟨?_, kept⟩
      obtain gone | ⟨whole, _⟩ := (record members).prune_cases
      · rw [prune_record_eq_none.mp gone] at kept
        cases kept
      · rw [whole, pruneEntry_record]
  | index position =>
      obtain ⟨entries, rfl, held⟩ := list_of_step? there
      rw [pruneEntry_list, step?_list, List.getElem?_map, held]
      refine ⟨?_, rfl⟩
      rw [prune, pruneEntries_eq_map]

/-- Pruning keeps what would stay as a member where it was, at any depth. -/
theorem at?_pruneEntry {value held : Value} {path : Path} (there : value.at? path = some held)
    (stays : held.prune = some held.pruneEntry) :
    value.prune = some value.pruneEntry ∧ value.pruneEntry.at? path = some held.pruneEntry := by
  induction path generalizing value with
  | nil =>
      cases there
      exact ⟨stays, at?_nil _⟩
  | cons segment rest ih =>
      rw [at?_cons] at there
      obtain ⟨below, first, others⟩ := Option.bind_eq_some_iff.mp there
      obtain ⟨inside, found⟩ := ih others
      obtain ⟨whole, step⟩ := step?_pruneEntry first inside
      rw [at?_cons, step]
      exact ⟨whole, found⟩

theorem at?_pruneEntry_of_scalar {value held : Value} {path : Path}
    (there : value.at? path = some held) (scalar : held.isScalar = true)
    (filled : held.isEmpty = false) : value.pruneEntry.at? path = some held := by
  rw [(at?_pruneEntry there (prune_of_isEmpty filled)).2, pruneEntry_of_isScalar scalar]

/-- A list keeps all of its entries, even the blank ones. -/
theorem at?_pruneEntry_of_list {value : Value} {entries : List Value} {path : Path}
    (there : value.at? path = some (.list entries)) :
    value.pruneEntry.at? path = some (.list (entries.map pruneEntry)) := by
  have stays : (list entries).prune = some (list entries).pruneEntry := by
    rw [prune, pruneEntry]
  rw [(at?_pruneEntry there stays).2, pruneEntry_list]

end Value

end ResourceEditor
