import ResourceEditor.Value.Basic
/-
This file follows paths through values, and says which values are empty by what lies in them.
-/

namespace ResourceEditor

namespace Value

/-- A property of values holds everywhere if it passes on from what lies inside. -/
theorem descent (property : Value → Prop)
    (scalar : ∀ value : Value, value.isScalar = true → property value)
    (record : ∀ members : Record, (∀ pair ∈ members, property pair.2) →
      property (.record members))
    (list : ∀ entries : List Value, (∀ entry ∈ entries, property entry) →
      property (.list entries)) (value : Value) : property value := by
  refine @Value.rec property (fun members => ∀ pair ∈ members, property pair.2)
    (fun entries => ∀ entry ∈ entries, property entry) (fun pair => property pair.2)
    ?_ ?_ ?_ ?_ ?_ ?_ ?_ ?_ ?_ ?_ value
  · exact fun content => scalar _ rfl
  · exact fun number => scalar _ rfl
  · exact fun flag => scalar _ rfl
  · exact fun members each => record members each
  · exact fun entries each => list entries each
  · exact List.forall_mem_nil _
  · exact fun pair rest first others => List.forall_mem_cons.mpr ⟨first, others⟩
  · exact List.forall_mem_nil _
  · exact fun entry rest first others => List.forall_mem_cons.mpr ⟨first, others⟩
  · exact fun name value held => held

@[simp] theorem at?_nil (value : Value) : value.at? [] = some value := by rw [at?]

@[simp] theorem at?_cons (value : Value) (segment : Segment) (rest : Path) :
    value.at? (segment :: rest) = (value.step? segment).bind fun below => below.at? rest := by
  rw [at?]

theorem at?_append (value : Value) (path rest : Path) :
    value.at? (path ++ rest) = (value.at? path).bind fun below => below.at? rest := by
  induction path generalizing value with
  | nil => simp
  | cons segment others ih =>
      rw [List.cons_append, at?_cons, at?_cons, Option.bind_assoc]
      congr 1
      funext below
      exact ih below

@[simp] theorem step?_record (members : Record) (name : String) :
    (record members).step? (.field name) = Members.get? members name := rfl

@[simp] theorem step?_list (entries : List Value) (position : Nat) :
    (list entries).step? (.index position) = entries[position]? := rfl

theorem record_of_step? {value below : Value} {name : String}
    (there : value.step? (.field name) = some below) :
    ∃ members, value = .record members ∧ Members.get? members name = some below := by
  cases value with
  | record members => exact ⟨members, rfl, there⟩
  | _ => cases there

theorem list_of_step? {value below : Value} {position : Nat}
    (there : value.step? (.index position) = some below) :
    ∃ entries, value = .list entries ∧ entries[position]? = some below := by
  cases value with
  | list entries => exact ⟨entries, rfl, there⟩
  | _ => cases there

theorem record?_cases (value : Value) :
    value.record? = none ∨ ∃ members, value = .record members := by
  cases value with
  | record members => exact .inr ⟨members, rfl⟩
  | _ => exact .inl rfl

theorem list?_cases (value : Value) :
    value.list? = none ∨ ∃ entries, value = .list entries := by
  cases value with
  | list entries => exact .inr ⟨entries, rfl⟩
  | _ => exact .inl rfl

theorem allEmpty_eq_false_iff (members : List (String × Value)) :
    allEmpty members = false ↔ ∃ member ∈ members, member.2.isEmpty = false := by
  induction members with
  | nil => simp [allEmpty]
  | cons member rest ih =>
      rw [allEmpty, Bool.and_eq_false_iff, ih]
      simp

theorem isEmpty_record {members : Record}
    (filled : ∃ member ∈ members, member.2.isEmpty = false) :
    (record members).isEmpty = false :=
  (allEmpty_eq_false_iff members).mpr filled

theorem isEmpty_list {entries : List Value} {position : Nat} {entry : Value}
    (there : entries[position]? = some entry) : (list entries).isEmpty = false := by
  cases entries with
  | nil => cases there
  | cons first rest => rfl

/-- A value in which something is filled in is filled in itself. -/
theorem isEmpty_of_step? {value below : Value} {segment : Segment}
    (there : value.step? segment = some below) (filled : below.isEmpty = false) :
    value.isEmpty = false := by
  cases segment with
  | field name =>
      obtain ⟨members, rfl, held⟩ := record_of_step? there
      exact isEmpty_record ⟨(name, below), Members.mem_of_get? held, filled⟩
  | index position =>
      obtain ⟨entries, rfl, held⟩ := list_of_step? there
      exact isEmpty_list held

theorem isEmpty_of_at? {value below : Value} {path : Path} (there : value.at? path = some below)
    (filled : below.isEmpty = false) : value.isEmpty = false := by
  induction path generalizing value with
  | nil =>
      cases there
      exact filled
  | cons segment rest ih =>
      rw [at?_cons] at there
      obtain ⟨next, first, others⟩ := Option.bind_eq_some_iff.mp there
      exact isEmpty_of_step? first (ih others)

end Value

/-- In a blank record every member is blank. -/
theorem Record.isEmpty_of_get? {record : Record} (blank : (Value.record record).isEmpty = true)
    {name : String} {value : Value} (held : Members.get? record name = some value) :
    value.isEmpty = true := by
  cases filled : value.isEmpty with
  | true => rfl
  | false =>
      rw [Value.isEmpty_record ⟨_, Members.mem_of_get? held, filled⟩] at blank
      cases blank

theorem Record.at?_of_ne_nil (model : Record) {path : Path} (some : path ≠ []) :
    model.at? path = (Value.record model).at? path := by
  cases path with
  | nil => exact absurd rfl some
  | cons segment rest => rfl

end ResourceEditor
