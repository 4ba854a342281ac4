import ResourceEditor.Proofs.Value.Choice
import ResourceEditor.Proofs.Value.Lookup
import ResourceEditor.Validation.Basic
import ResourceEditor.Value.Prune
/-
This file says what pruning does to one value: as a list entry it stays with the same fill, as a
record member it goes only when it is empty.
-/

namespace ResourceEditor

namespace Value

theorem pruneEntries_eq_map (entries : List Value) :
    pruneEntries entries = entries.map pruneEntry := by
  induction entries with
  | nil => rfl
  | cons entry rest ih => rw [pruneEntries, ih, List.map_cons]

theorem pruneMembers_eq_choose (members : Record) :
    pruneMembers members = Members.choose prune members := by
  induction members with
  | nil => rfl
  | cons pair rest ih =>
      obtain ⟨name, value⟩ := pair
      rw [pruneMembers, Members.choose_cons, ih]
      cases value.prune <;> rfl

theorem pruneEntry_list (entries : List Value) :
    (list entries).pruneEntry = .list (entries.map pruneEntry) := by
  rw [pruneEntry, pruneEntries_eq_map]

theorem pruneEntry_record (members : Record) :
    (record members).pruneEntry = .record (pruneMembers members) := by
  rw [pruneEntry]

theorem pruneEntry_of_isScalar {value : Value} (scalar : value.isScalar = true) :
    value.pruneEntry = value := by
  cases value with
  | record members => cases scalar
  | list entries => cases scalar
  | _ => rw [pruneEntry]

/-- A member goes, or it stays as it would stay as an entry. -/
theorem prune_cases (value : Value) :
    value.prune = none ∨ value.prune = some value.pruneEntry ∧ value.isNaN = false := by
  cases value with
  | record members =>
      rw [prune, pruneEntry]
      cases pruneMembers members with
      | nil => exact .inl rfl
      | cons first rest => exact .inr ⟨rfl, rfl⟩
  | list entries =>
      rw [prune, pruneEntry]
      exact .inr ⟨rfl, rfl⟩
  | text content =>
      rw [prune, pruneEntry]
      cases content.isEmpty with
      | true => exact .inl rfl
      | false => exact .inr ⟨rfl, rfl⟩
  | number number =>
      rw [prune, pruneEntry]
      cases malformed : number.isNaN with
      | true => exact .inl rfl
      | false => exact .inr ⟨rfl, malformed⟩
  | bool flag =>
      rw [prune, pruneEntry]
      exact .inr ⟨rfl, rfl⟩

/-- A record goes as a member when nothing is left of it. -/
theorem prune_record_eq_none {members : Record} :
    (record members).prune = none ↔ pruneMembers members = [] := by
  rw [prune]
  cases pruneMembers members <;> simp

/-- Pruning keeps members as long as each of them keeps its fill. -/
theorem allEmpty_pruneMembers {members : Record}
    (each : ∀ pair ∈ members, pair.2.pruneEntry.isEmpty = pair.2.isEmpty ∧
      (pair.2.prune = none → pair.2.isEmpty = true)) :
    allEmpty (pruneMembers members) = allEmpty members := by
  induction members with
  | nil => rfl
  | cons pair rest ih =>
      obtain ⟨name, value⟩ := pair
      obtain ⟨⟨same, blank⟩, others⟩ := List.forall_mem_cons.mp each
      rw [pruneMembers, allEmpty]
      obtain gone | ⟨stays, _⟩ := value.prune_cases
      · rw [gone, blank gone, Bool.true_and]
        exact ih others
      · rw [stays, ← ih others, ← same]
        rfl

/-- Pruning leaves a value as empty as it is, and only empty members go. -/
theorem isEmpty_pruneEntry (value : Value) :
    value.pruneEntry.isEmpty = value.isEmpty ∧ (value.prune = none → value.isEmpty = true) := by
  refine descent (fun value => value.pruneEntry.isEmpty = value.isEmpty ∧
    (value.prune = none → value.isEmpty = true)) ?_ ?_ ?_ value
  · intro value scalar
    refine ⟨by rw [pruneEntry_of_isScalar scalar], ?_⟩
    intro gone
    cases value with
    | text content => simpa [prune, isEmpty] using gone
    | number number => simpa [prune, isEmpty] using gone
    | bool flag => simp [prune] at gone
    | record members => cases scalar
    | list entries => cases scalar
  · intro members each
    have same : allEmpty (pruneMembers members) = allEmpty members := allEmpty_pruneMembers each
    refine ⟨by rw [pruneEntry_record, isEmpty, isEmpty, same], ?_⟩
    intro gone
    rw [isEmpty, ← same]
    rw [prune] at gone
    cases kept : pruneMembers members with
    | nil => rfl
    | cons first rest =>
        rw [kept] at gone
        cases gone
  · intro entries each
    refine ⟨?_, fun gone => by simp [prune] at gone⟩
    rw [pruneEntry_list]
    cases entries <;> rfl

/-- A member that is filled in stays. -/
theorem prune_of_isEmpty {value : Value} (filled : value.isEmpty = false) :
    value.prune = some value.pruneEntry := by
  obtain gone | ⟨stays, _⟩ := value.prune_cases
  · rw [value.isEmpty_pruneEntry.2 gone] at filled
    cases filled
  · exact stays

theorem eq_of_prune {value kept : Value} (stays : value.prune = some kept) :
    kept = value.pruneEntry ∧ value.isNaN = false := by
  obtain gone | ⟨same, number⟩ := value.prune_cases
  · rw [gone] at stays
    cases stays
  · rw [same, Option.some.injEq] at stays
    exact ⟨stays.symm, number⟩

/-- A scalar that stays is filled in. -/
theorem isEmpty_of_prune {value kept : Value} (scalar : value.isScalar = true)
    (stays : value.prune = some kept) : value.isEmpty = false := by
  cases value with
  | text content => simpa [prune, isEmpty] using Option.isSome_of_eq_some stays
  | number number => simpa [prune, isEmpty] using Option.isSome_of_eq_some stays
  | bool flag => rfl
  | record members => cases scalar
  | list entries => cases scalar

theorem mem_of_mem_pruneMembers {members : Record} {name : String} {kept : Value}
    (member : (name, kept) ∈ pruneMembers members) :
    ∃ value, (name, value) ∈ members ∧ value.prune = some kept := by
  rw [pruneMembers_eq_choose] at member
  exact Members.mem_choose.mp member

theorem integer?_pruneEntry (value : Value) : value.pruneEntry.integer? = value.integer? := by
  cases value with
  | record members => rw [pruneEntry_record]; rfl
  | list entries => rw [pruneEntry_list]; rfl
  | _ => rw [pruneEntry_of_isScalar rfl]

theorem isNaN_pruneEntry (value : Value) : value.pruneEntry.isNaN = value.isNaN := by
  cases value with
  | record members => rw [pruneEntry_record]; rfl
  | list entries => rw [pruneEntry_list]; rfl
  | _ => rw [pruneEntry_of_isScalar rfl]

theorem isNaN_of_mem_pruneMembers {members : Record} {pair : String × Value}
    (member : pair ∈ pruneMembers members) : pair.2.isNaN = false := by
  obtain ⟨value, _, stays⟩ := mem_of_mem_pruneMembers member
  obtain ⟨same, number⟩ := eq_of_prune stays
  rw [same, isNaN_pruneEntry, number]

theorem names_pruneMembers_sublist (members : Record) :
    (Members.names (pruneMembers members)).Sublist (Members.names members) := by
  rw [pruneMembers_eq_choose]
  exact Members.names_choose_sublist prune members

theorem record?_pruneEntry (value : Value) :
    value.pruneEntry.record? = value.record?.map pruneMembers := by
  cases value with
  | record members => rw [pruneEntry_record]; rfl
  | list entries => rw [pruneEntry_list]; rfl
  | _ => rw [pruneEntry_of_isScalar rfl]; rfl

theorem list?_pruneEntry (value : Value) :
    value.pruneEntry.list? = value.list?.map (List.map pruneEntry) := by
  cases value with
  | record members => rw [pruneEntry_record]; rfl
  | list entries => rw [pruneEntry_list]; rfl
  | _ => rw [pruneEntry_of_isScalar rfl]; rfl

/-- Of distinct members, pruning the whole record prunes the member of each name. -/
theorem get?_pruneMembers {members : Record} (distinct : (Members.names members).Nodup)
    (name : String) :
    Members.get? (pruneMembers members) name = (Members.get? members name).bind prune := by
  rw [pruneMembers_eq_choose]
  exact Members.get?_choose distinct name

end Value

end ResourceEditor
