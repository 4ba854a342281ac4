import ResourceEditor.Proofs.Value.Equality
import ResourceEditor.Proofs.Value.Pruned
/-
This file says what values that look the same have in common: they are filled in alike, stand for
one integer, and what is left of them when they are pruned looks the same again.
-/

namespace ResourceEditor

theorem Members.eq_nil_iff {α : Type} {members : Members α} :
    members = [] ↔ ∀ name, get? members name = none := by
  cases members with
  | nil => simp
  | cons pair rest =>
      obtain ⟨name, value⟩ := pair
      refine ⟨fun never => (nomatch never), fun none => ?_⟩
      have held := none name
      rw [get?_cons, if_pos rfl] at held
      cases held

theorem both_or_neither {α : Type} {related : α → α → Prop} {first second : Option α}
    (rel : Option.Rel related first second) :
    (first = none ∧ second = none) ∨
      ∃ one two, first = some one ∧ second = some two ∧ related one two := by
  cases rel with
  | none => exact .inl ⟨rfl, rfl⟩
  | some held => exact .inr ⟨_, _, rfl, rfl, held⟩

namespace Value

variable {value other : Value} {members others : Record}

namespace Same

/-- Of records that look the same, both have such members of a name, or neither has one. -/
theorem get? (same : (Value.record members).Same (.record others)) (name : String) :
    Option.Rel Same (Members.get? members name) (Members.get? others name) := by
  cases held : Members.get? members name with
  | some value =>
      obtain ⟨found, there, alike⟩ := same.member held
      rw [there]
      exact .some alike
  | none =>
      cases there : Members.get? others name with
      | none => exact .none
      | some found =>
          obtain ⟨value, never, _⟩ := same.symm.member there
          rw [held] at never
          cases never

theorem of_members
    (each : ∀ name, Option.Rel Same (Members.get? members name) (Members.get? others name)) :
    (Value.record members).Same (.record others) := by
  refine .record (fun name => ?_) fun name value other held found => ?_
  · obtain ⟨missing, absent⟩ | ⟨one, two, there, here, _⟩ := both_or_neither (each name)
    · rw [missing, absent]
    · rw [there, here]
      rfl
  · have alike := each name
    rw [held, found] at alike
    cases alike with
    | some alike => exact alike

theorem filled (same : value.Same other) (distinct : value.isDistinct = true)
    (full : value.isEmpty = false) : other.isEmpty = false := by
  induction same with
  | scalar => exact full
  | @record members others names each ih =>
      obtain ⟨single, inside⟩ := (isDistinct_record members).mp distinct
      obtain ⟨⟨name, held⟩, member, inner⟩ := (allEmpty_eq_false_iff members).mp full
      have there := Members.get?_of_mem single member
      obtain ⟨found, here, _⟩ := Same.member (.record names each) there
      exact isEmpty_record ⟨(name, found), Members.mem_of_get? here,
        ih name held found there here (inside _ member) inner⟩
  | @list entries others length each ih =>
      cases others with
      | cons first rest => rfl
      | nil =>
          rw [List.length_eq_zero_iff.mp length] at full
          cases full

theorem isEmpty_eq (same : value.Same other) (distinct : value.isDistinct = true)
    (also : other.isDistinct = true) : value.isEmpty = other.isEmpty := by
  cases filled : value.isEmpty with
  | false => rw [same.filled distinct filled]
  | true =>
      cases further : other.isEmpty with
      | true => rfl
      | false =>
          rw [same.symm.filled also further] at filled
          cases filled

theorem isNaN_eq (same : value.Same other) : value.isNaN = other.isNaN := by
  cases same <;> rfl

theorem integer?_eq (same : value.Same other) : value.integer? = other.integer? := by
  cases same <;> rfl

end Same

/-- Pruning leaves no two members of one name where there were none. -/
theorem isDistinct_pruneEntry (value : Value) :
    value.isDistinct = true → value.pruneEntry.isDistinct = true := by
  refine descent (fun value => value.isDistinct = true → value.pruneEntry.isDistinct = true)
    ?_ ?_ ?_ value
  · intro value scalar distinct
    rwa [pruneEntry_of_isScalar scalar]
  · intro members each distinct
    obtain ⟨names, inside⟩ := (isDistinct_record members).mp distinct
    rw [pruneEntry_record]
    refine (isDistinct_record _).mpr ⟨(names_pruneMembers_sublist members).nodup names, ?_⟩
    rintro ⟨name, kept⟩ member
    obtain ⟨held, there, stays⟩ := mem_of_mem_pruneMembers member
    obtain ⟨rfl, _⟩ := eq_of_prune stays
    exact each _ there (inside _ there)
  · intro entries each distinct
    have inside := (isDistinct_list entries).mp distinct
    rw [pruneEntry_list]
    refine (isDistinct_list _).mpr (List.forall_mem_map.mpr fun entry there => ?_)
    exact each entry there (inside entry there)

namespace Same

/-- What is left of two values looks the same, as list entries and as members. -/
structure PrunesAlike (value other : Value) : Prop where
  entry : value.pruneEntry.Same other.pruneEntry
  member : Option.Rel Same value.prune other.prune

theorem PrunesAlike.of_entry (entry : value.pruneEntry.Same other.pruneEntry)
    (both : value.prune = none ↔ other.prune = none) : PrunesAlike value other := by
  refine ⟨entry, ?_⟩
  obtain gone | ⟨stays, _⟩ := value.prune_cases
  · rw [gone, both.mp gone]
    exact .none
  · obtain lost | ⟨remains, _⟩ := other.prune_cases
    · rw [both.mpr lost] at stays
      cases stays
    · rw [stays, remains]
      exact .some entry

theorem PrunesAlike.of_members (single : (Members.names members).Nodup)
    (unique : (Members.names others).Nodup)
    (each : ∀ name, Option.Rel PrunesAlike (Members.get? members name) (Members.get? others name)) :
    PrunesAlike (.record members) (.record others) := by
  have left (name : String) : Option.Rel Same (Members.get? (pruneMembers members) name)
      (Members.get? (pruneMembers others) name) := by
    rw [get?_pruneMembers single, get?_pruneMembers unique]
    obtain ⟨missing, absent⟩ | ⟨one, two, there, here, alike⟩ := both_or_neither (each name)
    · rw [missing, absent]
      exact .none
    · rw [there, here]
      exact alike.member
  refine .of_entry ?_ ?_
  · rw [pruneEntry_record, pruneEntry_record]
    exact .of_members left
  · rw [prune_record_eq_none, prune_record_eq_none, Members.eq_nil_iff, Members.eq_nil_iff]
    refine forall_congr' fun name => ?_
    obtain ⟨missing, absent⟩ | ⟨one, two, there, here, _⟩ := both_or_neither (left name)
    · rw [missing, absent]
    · rw [there, here]
      exact ⟨fun never => (nomatch never), fun never => (nomatch never)⟩

theorem prunesAlike (same : value.Same other) (distinct : value.isDistinct = true)
    (also : other.isDistinct = true) : PrunesAlike value other := by
  induction same with
  | scalar => exact .of_entry (.refl _) Iff.rfl
  | @record members others names each ih =>
      obtain ⟨single, inside⟩ := (isDistinct_record members).mp distinct
      obtain ⟨unique, within⟩ := (isDistinct_record others).mp also
      refine .of_members single unique fun name => ?_
      obtain ⟨missing, absent⟩ | ⟨held, found, there, here, _⟩ :=
        both_or_neither (Same.get? (.record names each) name)
      · rw [missing, absent]
        exact .none
      · rw [there, here]
        exact .some (ih name held found there here (inside _ (Members.mem_of_get? there))
          (within _ (Members.mem_of_get? here)))
  | @list entries others length each ih =>
      have inside := (isDistinct_list entries).mp distinct
      have within := (isDistinct_list others).mp also
      refine .of_entry ?_ (by simp [Value.prune])
      rw [pruneEntry_list, pruneEntry_list]
      refine .list (by simpa using length) fun position one two held found => ?_
      rw [List.getElem?_map, Option.map_eq_some_iff] at held found
      obtain ⟨entry, there, rfl⟩ := held
      obtain ⟨element, here, rfl⟩ := found
      exact (ih position entry element there here (inside _ (List.mem_of_getElem? there))
        (within _ (List.mem_of_getElem? here))).entry

end Same

/-- Two values look the same, and in neither of them a record has two members of one name. -/
structure Alike (value other : Value) : Prop where
  same : value.Same other
  distinct : value.isDistinct = true
  also : other.isDistinct = true

namespace Alike

theorem isEmpty_eq (alike : value.Alike other) : value.isEmpty = other.isEmpty :=
  alike.same.isEmpty_eq alike.distinct alike.also

theorem isUnfilled_eq (alike : value.Alike other) : value.isUnfilled = other.isUnfilled := by
  rw [isUnfilled, isUnfilled, alike.isEmpty_eq, alike.same.isNaN_eq]

theorem member (alike : (record members).Alike (.record others)) (name : String) :
    Option.Rel Alike (Members.get? members name) (Members.get? others name) := by
  obtain ⟨missing, absent⟩ | ⟨held, found, there, here, same⟩ :=
    both_or_neither (alike.same.get? name)
  · rw [missing, absent]
    exact .none
  · rw [there, here]
    exact .some ⟨same,
      ((isDistinct_record members).mp alike.distinct).2 _ (Members.mem_of_get? there),
      ((isDistinct_record others).mp alike.also).2 _ (Members.mem_of_get? here)⟩

theorem integer?_eq (alike : (record members).Alike (.record others)) (name : String) :
    (Members.get? members name).bind integer? = (Members.get? others name).bind integer? := by
  obtain ⟨missing, absent⟩ | ⟨held, found, there, here, inner⟩ :=
    both_or_neither (alike.member name)
  · rw [missing, absent]
  · rw [there, here]
    exact inner.same.integer?_eq

theorem entry {entries elements : List Value} (alike : (list entries).Alike (.list elements))
    {position : Nat} {entry element : Value} (there : entries[position]? = some entry)
    (here : elements[position]? = some element) : entry.Alike element := by
  refine ⟨?_, (isDistinct_list entries).mp alike.distinct _ (List.mem_of_getElem? there),
    (isDistinct_list elements).mp alike.also _ (List.mem_of_getElem? here)⟩
  obtain ⟨found, again, same⟩ := alike.same.entry there
  rw [here, Option.some.injEq] at again
  exact again ▸ same

end Alike

end Value

end ResourceEditor
