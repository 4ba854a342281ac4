import Mathlib.Data.List.Perm.Subperm
import ResourceEditor.Proofs.Value.Distinct
import ResourceEditor.Value.Basic
/-
This file relates values that look the same at every step into them, and shows that for values that
stand for forms these are the equal ones.
-/

namespace ResourceEditor

namespace Value

/-- Two values look the same: scalars that are one, records with such values under the same names,
or lists with such values at the same positions. -/
inductive Same : Value → Value → Prop where
  | scalar {value : Value} (scalar : value.isScalar = true) : Same value value
  | record {members others : Record}
      (names : ∀ name, (Members.get? members name).isSome = (Members.get? others name).isSome)
      (each : ∀ name value other, Members.get? members name = some value →
        Members.get? others name = some other → Same value other) :
      Same (.record members) (.record others)
  | list {entries others : List Value} (length : entries.length = others.length)
      (each : ∀ (position : Nat) entry other, entries[position]? = some entry →
        others[position]? = some other → Same entry other) :
      Same (.list entries) (.list others)

variable {value other another : Value} {members others : Record} {entries elements : List Value}

namespace Same

theorem refl (value : Value) : value.Same value := by
  refine descent (fun value => value.Same value) (fun value scalar => .scalar scalar) ?_ ?_ value
  · intro members each
    refine .record (fun name => rfl) fun name value other held again => ?_
    rw [held, Option.some.injEq] at again
    subst again
    exact each _ (Members.mem_of_get? held)
  · intro entries each
    refine .list rfl fun position entry other held again => ?_
    rw [held, Option.some.injEq] at again
    subst again
    exact each _ (List.mem_of_getElem? held)

theorem symm (same : value.Same other) : other.Same value := by
  induction same with
  | scalar scalar => exact .scalar scalar
  | record names each ih =>
      exact .record (fun name => (names name).symm) fun name value other held found =>
        ih name other value found held
  | list length each ih =>
      exact .list length.symm fun position entry other held found =>
        ih position other entry found held

theorem member (same : (Value.record members).Same (.record others)) {name : String}
    (held : Members.get? members name = some value) :
    ∃ found, Members.get? others name = some found ∧ value.Same found := by
  cases same with
  | scalar scalar => cases scalar
  | record names each =>
      have there := names name
      rw [held, Option.isSome_some] at there
      obtain ⟨found, here⟩ := Option.isSome_iff_exists.mp there.symm
      exact ⟨found, here, each name value found held here⟩

theorem length_eq (same : (Value.list entries).Same (.list elements)) :
    entries.length = elements.length := by
  cases same with
  | scalar scalar => cases scalar
  | list length each => exact length

theorem entry (same : (Value.list entries).Same (.list elements)) {position : Nat}
    (held : entries[position]? = some value) :
    ∃ found, elements[position]? = some found ∧ value.Same found := by
  cases same with
  | scalar scalar => cases scalar
  | list length each =>
      have within : position < elements.length := length ▸ (List.getElem?_eq_some_iff.mp held).1
      have found := List.getElem?_eq_getElem within
      exact ⟨_, found, each position _ _ held found⟩

theorem trans (first : value.Same other) (second : other.Same another) : value.Same another := by
  induction first generalizing another with
  | scalar => exact second
  | @record members others names each ih =>
      cases second with
      | scalar scalar => cases scalar
      | @record _ last further beyond =>
          refine .record (fun name => (names name).trans (further name)) ?_
          intro name value other held found
          have there := names name
          rw [held, Option.isSome_some] at there
          obtain ⟨between, middle⟩ := Option.isSome_iff_exists.mp there.symm
          exact ih name value between held middle (beyond name between other middle found)
  | @list entries others length each ih =>
      cases second with
      | scalar scalar => cases scalar
      | @list _ last further beyond =>
          refine .list (length.trans further) ?_
          intro position entry other held found
          have within : position < others.length :=
            length ▸ (List.getElem?_eq_some_iff.mp held).1
          have middle := List.getElem?_eq_getElem within
          exact ih position entry _ held middle (beyond position _ other middle found)

theorem of_get? (looks : ∀ name, Members.get? members name = Members.get? others name) :
    (Value.record members).Same (.record others) := by
  refine .record (fun name => congrArg _ (looks name)) fun name value other held found => ?_
  rw [← looks name, held, Option.some.injEq] at found
  exact found ▸ refl value

/-- The same member put into records that look the same. -/
theorem set (same : (Value.record members).Same (.record others)) (name : String)
    (inner : value.Same other) :
    (Value.record (Members.set members name value)).Same (.record (Members.set others name other)) := by
  cases same with
  | scalar scalar => cases scalar
  | record names each =>
      refine .record (fun another => ?_) fun another one two held found => ?_
      · rw [Members.get?_set, Members.get?_set]
        split
        next => rfl
        next => exact names another
      · rw [Members.get?_set] at held found
        split at held
        next here =>
          rw [if_pos here] at found
          cases held
          cases found
          exact inner
        next there =>
          rw [if_neg there] at found
          exact each another one two held found

/-- The same entry put at one position of lists that look the same. -/
theorem setEntry (same : (Value.list entries).Same (.list elements)) (position : Nat)
    (inner : value.Same other) :
    (Value.list (entries.set position value)).Same (.list (elements.set position other)) := by
  cases same with
  | scalar scalar => cases scalar
  | list length each =>
      refine .list (by simpa using length) fun another one two held found => ?_
      rw [List.getElem?_set] at held found
      split at held
      next here =>
        rw [if_pos here] at found
        split at held
        next =>
          split at found
          next =>
            cases held
            cases found
            exact inner
          next => cases found
        next => cases held
      next there =>
        rw [if_neg there] at found
        exact each another one two held found

theorem push (same : (Value.list entries).Same (.list elements)) (entry : Value) :
    (Value.list (entries ++ [entry])).Same (.list (elements ++ [entry])) := by
  cases same with
  | scalar scalar => cases scalar
  | list length each =>
      refine .list (by simpa using length) fun position one two held found => ?_
      rw [List.getElem?_append] at held found
      rw [length] at held
      split at held
      next within =>
        rw [if_pos within] at found
        exact each position one two held found
      next beyond =>
        rw [if_neg beyond, held, Option.some.injEq] at found
        exact found ▸ refl one

end Same

theorem same_iff_of_isScalar (scalar : value.isScalar = true) :
    value.Same other ↔ value = other := by
  constructor
  · intro same
    cases same with
    | scalar => rfl
    | record => cases scalar
    | list => cases scalar
  · rintro rfl
    exact .refl value

theorem equals_iff_of_isScalar (scalar : value.isScalar = true) :
    value.equals other = true ↔ value = other := by
  cases value with
  | record members => cases scalar
  | list entries => cases scalar
  | _ => cases other <;> simp [equals]

theorem membersEqual_iff :
    membersEqual members others = true ↔ ∀ pair ∈ members,
      ∃ held, Members.get? others pair.1 = some held ∧ pair.2.equals held = true := by
  induction members with
  | nil => simp [membersEqual]
  | cons pair rest ih => simp [membersEqual, ih, Option.any_eq_true]

theorem entriesEqual_iff :
    entriesEqual entries elements = true ↔ entries.length = elements.length ∧
      ∀ (position : Nat) entry other, entries[position]? = some entry →
        elements[position]? = some other → entry.equals other = true := by
  induction entries generalizing elements with
  | nil => cases elements <;> simp [entriesEqual]
  | cons entry rest ih =>
      cases elements with
      | nil => simp [entriesEqual]
      | cons other others =>
          rw [entriesEqual, Bool.and_eq_true, ih, List.length_cons, List.length_cons]
          constructor
          · rintro ⟨first, length, each⟩
            refine ⟨congrArg _ length, fun position one two held found => ?_⟩
            cases position with
            | zero =>
                cases held
                cases found
                exact first
            | succ position => exact each position one two held found
          · rintro ⟨length, each⟩
            exact ⟨each 0 entry other rfl rfl, Nat.succ.inj length,
              fun position one two held found => each (position + 1) one two held found⟩

end Value

namespace Members

variable {α β : Type} {members : Members α} {others : Members β}

/-- As many distinct names, all of them among others, are these others. -/
theorem names_perm (distinct : (names members).Nodup) (length : members.length = others.length)
    (among : ∀ name ∈ names members, name ∈ names others) :
    (names members).Perm (names others) := by
  refine (distinct.subperm among).perm_of_length_le (Nat.le_of_eq ?_)
  rw [names, names, List.length_map, List.length_map, length]

theorem length_eq_of_names (distinct : (names members).Nodup) (also : (names others).Nodup)
    (same : ∀ name, name ∈ names members ↔ name ∈ names others) :
    members.length = others.length := by
  have length : (names members).length = (names others).length :=
    ((List.perm_ext_iff_of_nodup distinct also).mpr same).length_eq
  rwa [names, names, List.length_map, List.length_map] at length

end Members

namespace Value

variable {value other : Value}

theorem equals_record_iff {members others : Record} (distinct : (record members).isDistinct = true)
    (also : (record others).isDistinct = true)
    (inside : ∀ pair ∈ members, ∀ held : Value, held.isDistinct = true →
      (pair.2.equals held = true ↔ pair.2.Same held)) :
    (record members).equals (.record others) = true ↔ (record members).Same (.record others) := by
  obtain ⟨names, _⟩ := (isDistinct_record members).mp distinct
  obtain ⟨otherNames, each⟩ := (isDistinct_record others).mp also
  rw [equals, Bool.and_eq_true, beq_iff_eq, membersEqual_iff]
  constructor
  · rintro ⟨length, found⟩
    have perm : (Members.names members).Perm (Members.names others) := by
      refine Members.names_perm names length fun name member => ?_
      obtain ⟨pair, there, rfl⟩ := List.mem_map.mp member
      obtain ⟨held, here, _⟩ := found pair there
      exact List.mem_map.mpr ⟨_, Members.mem_of_get? here, rfl⟩
    refine .record (fun name => ?_) fun name one two held again => ?_
    · rw [← Members.has, ← Members.has, Bool.eq_iff_iff, Members.has_iff_mem_names,
        Members.has_iff_mem_names, perm.mem_iff]
    · obtain ⟨here, there, equal⟩ := found _ (Members.mem_of_get? held)
      rw [again, Option.some.injEq] at there
      subst there
      have apart := each _ (Members.mem_of_get? again)
      exact (inside _ (Members.mem_of_get? held) two apart).mp equal
  · intro same
    refine ⟨?_, fun pair there => ?_⟩
    · refine Members.length_eq_of_names names otherNames fun name => ?_
      cases same with
      | scalar scalar => cases scalar
      | record heads _ =>
          rw [← Members.has_iff_mem_names, ← Members.has_iff_mem_names, Members.has, Members.has,
            heads name]
    · obtain ⟨held, here, alike⟩ := same.member (Members.get?_of_mem names there)
      have apart := each _ (Members.mem_of_get? here)
      exact ⟨held, here, (inside pair there held apart).mpr alike⟩

theorem equals_list_iff {entries elements : List Value}
    (inside : ∀ entry ∈ entries, ∀ held ∈ elements, entry.equals held = true ↔ entry.Same held) :
    (list entries).equals (.list elements) = true ↔ (list entries).Same (.list elements) := by
  rw [equals, entriesEqual_iff]
  constructor
  · rintro ⟨length, each⟩
    refine .list length fun position entry other held found => ?_
    exact (inside _ (List.mem_of_getElem? held) _ (List.mem_of_getElem? found)).mp
      (each position entry other held found)
  · intro same
    refine ⟨same.length_eq, fun position entry other held found => ?_⟩
    obtain ⟨element, here, alike⟩ := same.entry held
    rw [found, Option.some.injEq] at here
    subst here
    exact (inside _ (List.mem_of_getElem? held) _ (List.mem_of_getElem? found)).mpr alike

/-- Values in which no record has two members of one name are equal when they look the same. -/
theorem equals_iff_same (distinct : value.isDistinct = true) (also : other.isDistinct = true) :
    value.equals other = true ↔ value.Same other := by
  refine descent (fun value => ∀ other : Value, value.isDistinct = true → other.isDistinct = true →
    (value.equals other = true ↔ value.Same other)) ?_ ?_ ?_ value other distinct also
  · intro value scalar other _ _
    rw [equals_iff_of_isScalar scalar, same_iff_of_isScalar scalar]
  · intro members inside other distinct also
    cases other with
    | record others =>
        have each := ((isDistinct_record members).mp distinct).2
        exact equals_record_iff distinct also fun pair there held apart =>
          inside pair there held (each pair there) apart
    | _ => exact ⟨fun equal => (nomatch equal), fun same => (nomatch same)⟩
  · intro entries inside other distinct also
    cases other with
    | list elements =>
        have each := (isDistinct_list entries).mp distinct
        have others := (isDistinct_list elements).mp also
        exact equals_list_iff fun entry there held here =>
          inside entry there held (each entry there) (others held here)
    | _ => exact ⟨fun equal => (nomatch equal), fun same => (nomatch same)⟩

end Value

end ResourceEditor
