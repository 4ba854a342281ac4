import ResourceEditor.Proofs.Edit.Route
import ResourceEditor.Proofs.Value.Lookup
import ResourceEditor.Wire.Layout
/-
This file says when records and lists fit a layout, given that what is in them does, and that the
scalars in them then stay where they are.
-/

namespace ResourceEditor

/-- Every scalar in a value that is filled in is also in another value, at the same path. -/
def Value.Carries (other value : Value) : Prop :=
  ∀ path scalar, value.at? path = some scalar → scalar.isScalar = true → scalar.isEmpty = false →
    other.at? path = some scalar

namespace Value

theorem Carries.refl (value : Value) : value.Carries value := fun _ _ there _ _ => there

theorem carries_record {members others : Record}
    (each : ∀ name value, Members.get? members name = some value → value.isEmpty = false →
      ∃ other : Value, Members.get? others name = some other ∧ other.Carries value) :
    (record others).Carries (record members) := by
  intro path scalar there single filled
  cases path with
  | nil =>
      cases there
      cases single
  | cons segment rest =>
      rw [at?_cons] at there ⊢
      obtain ⟨value, first, below⟩ := Option.bind_eq_some_iff.mp there
      cases segment with
      | index position => cases first
      | field name =>
          obtain ⟨other, found, carries⟩ := each name value first (isEmpty_of_at? below filled)
          rw [step?_record, found]
          exact carries rest scalar below single filled

theorem carries_list {entries others : List Value}
    (each : ∀ (position : Nat) entry, entries[position]? = some entry →
      ∃ other : Value, others[position]? = some other ∧ other.Carries entry) :
    (list others).Carries (list entries) := by
  intro path scalar there single filled
  cases path with
  | nil =>
      cases there
      cases single
  | cons segment rest =>
      rw [at?_cons] at there ⊢
      obtain ⟨entry, first, below⟩ := Option.bind_eq_some_iff.mp there
      cases segment with
      | field name => cases first
      | index position =>
          obtain ⟨other, found, carries⟩ := each position entry first
          rw [step?_list, found]
          exact carries rest scalar below single filled

end Value

namespace Layout

/-- When every entry fits, what it becomes is found at its position. -/
theorem mapM_ok {fit : Value → Except WireFault Value} {related : Value → Value → Prop}
    {entries : List Value}
    (each : ∀ entry ∈ entries, ∃ other, fit entry = .ok other ∧ related entry other) :
    ∃ others, entries.mapM fit = .ok others ∧
      ∀ (position : Nat) entry, entries[position]? = some entry →
        ∃ other, others[position]? = some other ∧ related entry other := by
  induction entries with
  | nil => exact ⟨[], rfl, fun position entry there => by cases there⟩
  | cons entry rest ih =>
      obtain ⟨here, later⟩ := List.forall_mem_cons.mp each
      obtain ⟨other, fits, holds⟩ := here
      obtain ⟨others, fit, hold⟩ := ih later
      refine ⟨other :: others, ?_, ?_⟩
      · rw [List.mapM_cons, fits]
        simp only [bind, Except.bind, fit]
        rfl
      · intro position inner there
        cases position with
        | zero =>
            cases there
            exact ⟨other, rfl, holds⟩
        | succ position => exact hold position inner there

/-- When every member is kept, what it becomes is found under its name. -/
theorem fitMembers_ok {fit : String → Value → Except WireFault (Option Value)}
    {related : String → Value → Value → Prop} {members : Record}
    (each : ∀ pair ∈ members, ∃ other, fit pair.1 pair.2 = .ok (some other) ∧
      related pair.1 pair.2 other) :
    ∃ found, fitMembers fit members = .ok found ∧
      ∀ name value, Members.get? members name = some value →
        ∃ other, Members.get? found name = some other ∧ related name value other := by
  induction members with
  | nil => exact ⟨[], rfl, fun name value there => by cases there⟩
  | cons pair rest ih =>
      obtain ⟨first, value⟩ := pair
      obtain ⟨here, later⟩ := List.forall_mem_cons.mp each
      obtain ⟨other, fits, holds⟩ := here
      obtain ⟨found, fit, hold⟩ := ih later
      refine ⟨(first, other) :: found, ?_, ?_⟩
      · rw [fitMembers, fits]
        simp only [bind, Except.bind, fit]
        rfl
      · intro name inner there
        rw [Members.get?_cons] at there ⊢
        by_cases same : first = name
        · subst same
          rw [if_pos rfl] at there ⊢
          cases there
          exact ⟨other, rfl, holds⟩
        · rw [if_neg same] at there ⊢
          exact hold name inner there

theorem fit_record {layout : RecordLayout} {members wire : Record}
    (fits : layout.fit members = .ok wire) :
    (record layout).fit (.record members) = .ok (.record wire) := by
  rw [Layout.fit, fits]
  rfl

theorem fit_list {item : Layout} {entries others : List Value}
    (fits : entries.mapM item.fit = .ok others) :
    (list item).fit (.list entries) = .ok (.list others) := by
  rw [Layout.fit, fits]
  rfl

end Layout

def Presence.isRequired : Presence → Bool
  | .required => true
  | _ => false

namespace Layout

/-- One more field of a layout adds its member in front, if at all. -/
theorem fill_cons {found wire : Record} {rest : List WireField} (first : WireField)
    (filled : fill found rest = .ok wire)
    (required : first.presence.isRequired = true →
      ∃ value, Members.get? found first.name = some value) :
    ∃ more, fill found (first :: rest) = .ok more ∧
      (∀ value, Members.get? found first.name = some value →
        Members.get? more first.name = some value) ∧
      ∀ other, first.name ≠ other → Members.get? more other = Members.get? wire other := by
  obtain ⟨name, presence, layout⟩ := first
  have behind (own : Value) (other : String) (different : name ≠ other) :
      Members.get? ((name, own) :: wire) other = Members.get? wire other := by
    rw [Members.get?_cons, if_neg different]
  dsimp only at required ⊢
  cases there : Members.get? found name with
  | some value =>
      refine ⟨(name, value) :: wire, by simp only [fill, there, filled, Except.map], ?_,
        behind value⟩
      intro other same
      rw [Members.get?_cons, if_pos rfl]
      exact same
  | none =>
      cases presence with
      | required =>
          obtain ⟨value, held⟩ := required rfl
          rw [there] at held
          cases held
      | optional =>
          refine ⟨wire, by simp only [fill, there, filled], ?_, fun _ _ => rfl⟩
          intro value never
          cases never
      | default own =>
          refine ⟨(name, own) :: wire, by simp only [fill, there, filled, Except.map], ?_,
            behind own⟩
          intro value never
          cases never

/-- With all required members there the others are filled in, and those that are there stay. -/
theorem fill_ok {found : Record} {fields : List WireField}
    (required : ∀ field ∈ fields, field.presence.isRequired = true →
      ∃ value, Members.get? found field.name = some value) :
    ∃ wire, fill found fields = .ok wire ∧
      ∀ field ∈ fields, ∀ value, Members.get? found field.name = some value →
        Members.get? wire field.name = some value := by
  induction fields with
  | nil => exact ⟨[], rfl, fun field member => by cases member⟩
  | cons first rest ih =>
      obtain ⟨here, later⟩ := List.forall_mem_cons.mp required
      obtain ⟨wire, filled, stay⟩ := ih later
      obtain ⟨more, fills, own, others⟩ := fill_cons first filled here
      refine ⟨more, fills, ?_⟩
      intro field member value there
      by_cases same : first.name = field.name
      · rw [← same] at there ⊢
        exact own value there
      · rw [others field.name same]
        obtain rfl | inRest := List.mem_cons.mp member
        · exact absurd rfl same
        · exact stay field inRest value there

end Layout

namespace RecordLayout

/-- The field that a member of a name is fitted to. -/
def field? (layout : RecordLayout) (name : String) : Option WireField :=
  layout.fields.find? (·.name == name)

theorem fitNamed_eq {fields : List WireField} {name : String} {field : WireField}
    (found : fields.find? (·.name == name) = some field) (value : Value) :
    fitNamed fields name value = field.fit value := by
  induction fields with
  | nil => cases found
  | cons first rest ih =>
      rw [fitNamed]
      rw [List.find?_cons] at found
      by_cases same : first.name = name
      · simp only [same, beq_self_eq_true, Option.some.injEq] at found
        rw [if_pos same, found]
      · have other : (first.name == name) = false := by simpa using same
        rw [other] at found
        rw [if_neg same]
        exact ih found

theorem mem_of_field? {layout : RecordLayout} {name : String} {field : WireField}
    (found : layout.field? name = some field) : field ∈ layout.fields ∧ field.name = name :=
  ⟨List.mem_of_find?_eq_some found, by simpa using List.find?_some found⟩

end RecordLayout

theorem WireField.fit_ok {field : WireField} {value other : Value} (number : value.isNaN = false)
    (fits : field.layout.fit value = .ok other) : field.fit value = .ok (some other) := by
  obtain ⟨name, presence, layout⟩ := field
  have fits : layout.fit value = .ok other := fits
  cases presence <;> simp [WireField.fit, number, fits, Except.map]

/-- A record fits when each of its members fits a field of its name and no required one is missing.
What the members become is found under their names. -/
theorem RecordLayout.fit_ok {layout : RecordLayout} {members : Record}
    (related : String → Value → Value → Prop)
    (each : ∀ pair ∈ members, ∃ field other, layout.field? pair.1 = some field ∧
      field.fit pair.2 = .ok (some other) ∧ related pair.1 pair.2 other)
    (required : ∀ field ∈ layout.fields, field.presence.isRequired = true →
      ∃ value, Members.get? members field.name = some value) :
    ∃ wire, layout.fit members = .ok wire ∧
      ∀ name value, Members.get? members name = some value →
        ∃ other, Members.get? wire name = some other ∧ related name value other := by
  have named : ∀ pair ∈ members, ∃ other,
      fitNamed layout.fields pair.1 pair.2 = .ok (some other) ∧ related pair.1 pair.2 other := by
    intro pair member
    obtain ⟨field, other, found, fits, holds⟩ := each pair member
    exact ⟨other, (fitNamed_eq found pair.2).trans fits, holds⟩
  obtain ⟨found, kept, hold⟩ := Layout.fitMembers_ok named
  have there : ∀ field ∈ layout.fields, field.presence.isRequired = true →
      ∃ value, Members.get? found field.name = some value := by
    intro field member asked
    obtain ⟨value, held⟩ := required field member asked
    obtain ⟨other, again, _⟩ := hold field.name value held
    exact ⟨other, again⟩
  obtain ⟨wire, filled, stay⟩ := Layout.fill_ok there
  refine ⟨wire, ?_, ?_⟩
  · obtain ⟨name, fields⟩ := layout
    rw [RecordLayout.fit, kept]
    exact filled
  · intro name value held
    obtain ⟨other, again, holds⟩ := hold name value held
    obtain ⟨field, _, known, _⟩ := each _ (Members.mem_of_get? held)
    obtain ⟨member, rfl⟩ := mem_of_field? known
    exact ⟨other, stay field member other again, holds⟩

end ResourceEditor
