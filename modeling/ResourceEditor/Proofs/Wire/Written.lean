import Mathlib.Data.List.Forall2
import ResourceEditor.Proofs.Wire.Fit
/-
This file says what a record is on the wire, field by field: what its member for the field becomes,
or what stands for a member that is missing.
-/

namespace ResourceEditor

/-- What stands for a missing member, if anything does. -/
def Presence.default? : Presence → Option Value
  | .default value => some value
  | _ => none

/-- What the wire has for a field of a record. -/
def WireField.written? (field : WireField) (members : Record) : Option Value :=
  match Members.get? members field.name with
  | some value => (field.layout.fit value).toOption
  | none => field.presence.default?

namespace RecordLayout

def names (layout : RecordLayout) : List String := layout.fields.map (·.name)

/-- The members that the wire has for a record, in the order of the layout. -/
def written (layout : RecordLayout) (members : Record) : Record :=
  layout.fields.filterMap fun field => (field.written? members).map (field.name, ·)

end RecordLayout

namespace Layout

theorem fitText_ok {value other : Value} (fits : fitText value = .ok other) :
    other = value ∧ ∃ content, value = .text content := by
  cases value with
  | text content =>
      cases fits
      exact ⟨rfl, content, rfl⟩
  | _ => cases fits

theorem fitUnsigned_ok {bits : Nat} {value other : Value}
    (fits : fitUnsigned bits value = .ok other) :
    other = value ∧ ∃ number : Int64, value = .number (.int number) ∧ 0 ≤ number.toInt := by
  match value, fits with
  | .number (.int number), fits =>
      rw [fitUnsigned] at fits
      split at fits
      next within =>
        cases fits
        exact ⟨rfl, number, rfl, within.1⟩
      next => cases fits

/-- A choice comes from a text, or from a record of one name that holds the mark. -/
theorem fitChoice_ok {choices : List String} {value other : Value}
    (fits : fitChoice choices value = .ok other) :
    ∃ content, other = .text content ∧ (value = .text content ∨
      ∃ inner, value = .record [(content, inner)] ∧ inner.isNaN = true) := by
  have picked {content : String} (fits : pick choices content = .ok other) :
      other = .text content := by
    rw [pick] at fits
    split at fits
    · cases fits
      rfl
    · cases fits
  match value, fits with
  | .text content, fits => exact ⟨content, picked fits, .inl rfl⟩
  | .record [(name, inner)], fits =>
      rw [fitChoice] at fits
      obtain ⟨chosen, known, fits⟩ := bind_eq_ok_iff.mp fits
      split at fits
      next mark =>
        cases fits
        exact ⟨name, picked known, .inr ⟨inner, rfl, mark⟩⟩
      next => cases fits

/-- A list fits entry by entry. -/
theorem mapM_eq_ok_iff {fit : Value → Except WireFault Value} {entries others : List Value} :
    entries.mapM fit = .ok others ↔
      List.Forall₂ (fun entry other => fit entry = .ok other) entries others := by
  induction entries generalizing others with
  | nil =>
      rw [List.mapM_nil, List.forall₂_nil_left_iff]
      exact ⟨fun same => by cases same; rfl, fun same => by rw [same]; rfl⟩
  | cons entry rest ih =>
      rw [List.mapM_cons, bind_eq_ok_iff, List.forall₂_cons_left_iff]
      simp only [bind_eq_ok_iff, ih]
      constructor
      · rintro ⟨other, here, more, later, same⟩
        cases same
        exact ⟨other, more, here, later, rfl⟩
      · rintro ⟨other, more, here, later, rfl⟩
        exact ⟨other, here, more, later, rfl⟩

theorem fit_list_ok_iff {item : Layout} {value wire : Value} :
    (list item).fit value = .ok wire ↔ ∃ entries others, value = .list entries ∧
      wire = .list others ∧ List.Forall₂ (fun entry other => item.fit entry = .ok other)
        entries others := by
  cases value with
  | list entries =>
      rw [Layout.fit, map_eq_ok_iff]
      constructor
      · rintro ⟨others, mapped, rfl⟩
        exact ⟨entries, others, rfl, rfl, mapM_eq_ok_iff.mp mapped⟩
      · rintro ⟨_, others, same, rfl, each⟩
        cases same
        exact ⟨others, mapM_eq_ok_iff.mpr each, rfl⟩
  | _ => simp [Layout.fit]

theorem fit_entries_ok_iff {item : Layout} {entries : List Value} {wire : Value} :
    (list item).fit (.list entries) = .ok wire ↔ ∃ others,
      List.Forall₂ (fun entry other => item.fit entry = .ok other) entries others ∧
        .list others = wire := by
  rw [Layout.fit, map_eq_ok_iff]
  simp only [mapM_eq_ok_iff]

/-- What an entry becomes is found at its position. -/
theorem getElem?_of_fit {item : Layout} {entries others : List Value}
    (each : List.Forall₂ (fun entry other => item.fit entry = .ok other) entries others)
    (position : Nat) :
    (entries[position]? = none ∧ others[position]? = none) ∨
      ∃ entry other, entries[position]? = some entry ∧ others[position]? = some other ∧
        item.fit entry = .ok other := by
  induction each generalizing position with
  | nil => exact .inl ⟨rfl, rfl⟩
  | cons here _ ih =>
      cases position with
      | zero => exact .inr ⟨_, _, rfl, rfl, here⟩
      | succ position => exact ih position

/-- A list fits when each of its entries does. -/
theorem fit_entries_isOk_iff {item : Layout} {entries : List Value} :
    (∃ wire, (list item).fit (.list entries) = .ok wire) ↔
      ∀ entry ∈ entries, ∃ wire, item.fit entry = .ok wire := by
  simp only [fit_entries_ok_iff]
  rw [exists_comm]
  simp only [exists_and_left, exists_eq', and_true]
  induction entries with
  | nil => simp
  | cons entry rest ih =>
      rw [List.forall_mem_cons, ← ih]
      constructor
      · rintro ⟨others, each⟩
        obtain ⟨other, more, here, later, _⟩ := List.forall₂_cons_left_iff.mp each
        exact ⟨⟨other, here⟩, more, later⟩
      · rintro ⟨⟨other, here⟩, others, later⟩
        exact ⟨other :: others, .cons here later⟩

theorem fit_members_ok_iff {layout : RecordLayout} {members : Record} {wire : Value} :
    (record layout).fit (.record members) = .ok wire ↔
      ∃ others, layout.fit members = .ok others ∧ .record others = wire := by
  rw [Layout.fit, map_eq_ok_iff]

/-- A record comes from a record, or from a list of what it holds. -/
theorem fit_record_ok_iff {layout : RecordLayout} {value wire : Value} :
    (record layout).fit value = .ok wire ↔ ∃ others, wire = .record others ∧
      ((∃ members, value = .record members ∧ layout.fit members = .ok others) ∨
        ∃ entries, value = .list entries ∧ layout.fitEntries entries = .ok others) := by
  cases value with
  | record members =>
      rw [Layout.fit, map_eq_ok_iff]
      constructor
      · rintro ⟨others, fits, rfl⟩
        exact ⟨others, rfl, .inl ⟨members, rfl, fits⟩⟩
      · rintro ⟨others, rfl, ⟨_, same, fits⟩ | ⟨_, never, _⟩⟩
        · cases same
          exact ⟨others, fits, rfl⟩
        · cases never
  | list entries =>
      rw [Layout.fit, map_eq_ok_iff]
      constructor
      · rintro ⟨others, fits, rfl⟩
        exact ⟨others, rfl, .inr ⟨entries, rfl, fits⟩⟩
      · rintro ⟨others, rfl, ⟨_, never, _⟩ | ⟨_, same, fits⟩⟩
        · cases never
        · cases same
          exact ⟨others, fits, rfl⟩
  | _ => simp [Layout.fit]

/-- A layout is filled in when no required member is missing, each field by itself. -/
theorem fill_eq_ok_iff {found wire : Record} {fields : List WireField} :
    fill found fields = .ok wire ↔
      (∀ field ∈ fields, field.presence.isRequired = true →
        ∃ value, Members.get? found field.name = some value) ∧
      (fields.filterMap fun field =>
        ((Members.get? found field.name).or field.presence.default?).map (field.name, ·)) = wire := by
  induction fields generalizing wire with
  | nil => simp [fill]
  | cons field rest ih =>
      obtain ⟨name, presence, layout⟩ := field
      cases there : Members.get? found name with
      | some value => simp [fill, there, map_eq_ok_iff, ih, and_assoc]
      | none =>
          cases presence with
          | required => simp [fill, there, Presence.isRequired]
          | optional => simp [fill, there, ih, Presence.isRequired, Presence.default?]
          | default own =>
              simp [fill, there, map_eq_ok_iff, ih, Presence.isRequired, Presence.default?,
                and_assoc]

section Members

variable {fit : String → Value → Except WireFault (Option Value)} {members found : Record}

theorem fitMembers_isOk_iff :
    (∃ found, fitMembers fit members = .ok found) ↔
      ∀ pair ∈ members, ∃ kept, fit pair.1 pair.2 = .ok kept := by
  induction members with
  | nil => simp [fitMembers]
  | cons pair rest ih =>
      obtain ⟨name, value⟩ := pair
      rw [List.forall_mem_cons, ← ih]
      simp only [fitMembers, bind_eq_ok_iff]
      constructor
      · rintro ⟨found, kept, here, others, later, _⟩
        exact ⟨⟨kept, here⟩, others, later⟩
      · rintro ⟨⟨kept, here⟩, others, later⟩
        exact ⟨_, kept, here, others, later, rfl⟩

/-- What members of different names become is found under their names. -/
theorem get?_of_fitMembers (distinct : (Members.names members).Nodup)
    (fits : fitMembers fit members = .ok found) (name : String) :
    Members.get? found name =
      (Members.get? members name).bind fun value => (fit name value).toOption.join := by
  induction members generalizing found with
  | nil =>
      cases fits
      rfl
  | cons pair rest ih =>
      obtain ⟨first, value⟩ := pair
      obtain ⟨fresh, distinct⟩ := List.nodup_cons.mp distinct
      rw [fitMembers] at fits
      obtain ⟨kept, here, fits⟩ := bind_eq_ok_iff.mp fits
      obtain ⟨others, later, fits⟩ := bind_eq_ok_iff.mp fits
      cases fits
      have below := ih distinct later
      rw [Members.get?_cons]
      by_cases same : first = name
      · subst same
        rw [if_pos rfl, Option.bind_some, here]
        cases kept with
        | some other => exact (Members.get?_cons ..).trans (if_pos rfl)
        | none =>
            rw [Members.get?_of_not_mem fresh] at below
            exact below
      · rw [if_neg same, ← below]
        cases kept with
        | some other => exact (Members.get?_cons ..).trans (if_neg same)
        | none => rfl

end Members

end Layout

/-- When what there is for a field fits, the wire has what it becomes, or what stands for it when
there is nothing. -/
theorem WireField.written?_cases {field : WireField} {members : Record}
    (fits : ∀ value, Members.get? members field.name = some value →
      ∃ other, field.layout.fit value = .ok other) :
    (∃ value other, Members.get? members field.name = some value ∧
        field.layout.fit value = .ok other ∧ field.written? members = some other) ∨
      Members.get? members field.name = none ∧
        field.written? members = field.presence.default? := by
  rw [written?]
  cases there : Members.get? members field.name with
  | none => exact .inr ⟨rfl, rfl⟩
  | some value =>
      obtain ⟨other, fitted⟩ := fits value there
      refine .inl ⟨value, other, rfl, fitted, ?_⟩
      dsimp only
      rw [fitted]
      rfl

theorem WireField.fit_eq (field : WireField) {value : Value} (number : value.isNaN = false) :
    field.fit value = (field.layout.fit value).map some := by
  obtain ⟨name, presence, layout⟩ := field
  cases presence <;> simp [WireField.fit, number]

namespace RecordLayout

theorem fitNamed_of_not_mem {fields : List WireField} {name : String}
    (unknown : ∀ field ∈ fields, field.name ≠ name) (value : Value) :
    fitNamed fields name value = .ok none := by
  induction fields with
  | nil => rw [fitNamed]
  | cons first rest ih =>
      obtain ⟨other, others⟩ := List.forall_mem_cons.mp unknown
      rw [fitNamed, if_neg other, ih others]

variable {layout : RecordLayout} {members wire : Record}

/-- Of fields of different names each one is found under its own. -/
theorem field?_of_mem (unique : layout.names.Nodup) {field : WireField}
    (member : field ∈ layout.fields) : layout.field? field.name = some field := by
  have isKeyed (fields : List WireField) (unique : (fields.map (·.name)).Nodup)
      (member : field ∈ fields) : fields.find? (·.name == field.name) = some field := by
    induction fields with
    | nil => cases member
    | cons first rest ih =>
        obtain ⟨fresh, unique⟩ := List.nodup_cons.mp unique
        rw [List.find?_cons]
        obtain rfl | inRest := List.mem_cons.mp member
        · simp
        · have other : (first.name == field.name) = false := by
            rw [beq_eq_false_iff_ne]
            intro same
            exact fresh (List.mem_map.mpr ⟨field, inRest, same.symm⟩)
          rw [other]
          exact ih unique inRest
  exact isKeyed layout.fields unique member

/-- A member fits by the field of its name, and a member that no field is for is dropped. -/
theorem fitNamed_ok_iff (unique : layout.names.Nodup) {pair : String × Value}
    (number : pair.2.isNaN = false) :
    (∃ kept, fitNamed layout.fields pair.1 pair.2 = .ok kept) ↔
      ∀ field ∈ layout.fields, field.name = pair.1 →
        ∃ other, field.layout.fit pair.2 = .ok other := by
  by_cases known : ∃ field ∈ layout.fields, field.name = pair.1
  · obtain ⟨field, member, same⟩ := known
    have found := field?_of_mem unique member
    rw [same] at found
    rw [fitNamed_eq found, field.fit_eq number]
    constructor
    · rintro ⟨kept, fits⟩ other there again
      have one : other = field := by
        have also := field?_of_mem unique there
        rw [again, found, Option.some.injEq] at also
        exact also.symm
      subst one
      cases inner : other.layout.fit pair.2 with
      | ok value => exact ⟨value, rfl⟩
      | error fault =>
          rw [inner] at fits
          cases fits
    · intro each
      obtain ⟨other, fits⟩ := each field member same
      exact ⟨some other, by rw [fits]; rfl⟩
  · simp only [not_exists, not_and] at known
    rw [fitNamed_of_not_mem known]
    exact ⟨fun _ field member same => absurd same (known field member), fun _ => ⟨none, rfl⟩⟩

/-- A record fits when each of its members fits the field of its name and no required one is
missing, and then the wire has for each field what there is. -/
theorem fit_eq_ok_iff (unique : layout.names.Nodup) (distinct : (Members.names members).Nodup)
    (numbers : ∀ pair ∈ members, pair.2.isNaN = false) :
    layout.fit members = .ok wire ↔
      (∀ field ∈ layout.fields, ∀ value, Members.get? members field.name = some value →
        ∃ other, field.layout.fit value = .ok other) ∧
      (∀ field ∈ layout.fields, field.presence.isRequired = true →
        ∃ value, Members.get? members field.name = some value) ∧
      layout.written members = wire := by
  have opened : layout.fit members = Layout.fitMembers (fitNamed layout.fields) members >>=
      fun found => Layout.fill found layout.fields := by
    obtain ⟨name, fields⟩ := layout
    rw [RecordLayout.fit]
  have fit_each : (∃ found, Layout.fitMembers (fitNamed layout.fields) members = .ok found) ↔
      ∀ field ∈ layout.fields, ∀ value, Members.get? members field.name = some value →
        ∃ other, field.layout.fit value = .ok other := by
    rw [Layout.fitMembers_isOk_iff]
    constructor
    · intro each field known value there
      have pair := Members.mem_of_get? there
      exact (fitNamed_ok_iff unique (numbers _ pair)).mp (each _ pair) field known rfl
    · intro each pair member
      refine (fitNamed_ok_iff unique (numbers pair member)).mpr ?_
      intro field known same
      exact each field known pair.2 (same ▸ Members.get?_of_mem distinct member)
  have fill_found {found : Record}
      (fits : Layout.fitMembers (fitNamed layout.fields) members = .ok found) :
      Layout.fill found layout.fields = .ok wire ↔
        (∀ field ∈ layout.fields, field.presence.isRequired = true →
          ∃ value, Members.get? members field.name = some value) ∧
        layout.written members = wire := by
    -- what is found for a field is what its member becomes
    have found_eq {field : WireField} (known : field ∈ layout.fields) :
        (∃ value, Members.get? members field.name = some value ∧
            ∃ other, field.layout.fit value = .ok other ∧
              Members.get? found field.name = some other) ∨
          Members.get? members field.name = none ∧ Members.get? found field.name = none := by
      rw [Layout.get?_of_fitMembers distinct fits]
      cases there : Members.get? members field.name with
      | none => exact .inr ⟨rfl, rfl⟩
      | some value =>
          obtain ⟨other, inner⟩ := fit_each.mp ⟨found, fits⟩ field known value there
          refine .inl ⟨value, rfl, other, inner, ?_⟩
          rw [Option.bind_some, fitNamed_eq (field?_of_mem unique known),
            field.fit_eq (numbers _ (Members.mem_of_get? there)), inner]
          rfl
    rw [Layout.fill_eq_ok_iff, written]
    apply and_congr
    · refine forall₂_congr fun field known => imp_congr_right fun _ => ?_
      obtain ⟨value, there, other, _, inner⟩ | ⟨absent, also⟩ := found_eq known
      · rw [there, inner]
        simp
      · rw [absent, also]
    · rw [List.filterMap_congr fun field known => ?_]
      rw [WireField.written?]
      obtain ⟨value, there, other, fitted, inner⟩ | ⟨absent, also⟩ := found_eq known
      · rw [there, inner]
        simp only [fitted]
        rfl
      · rw [absent, also]
        rfl
  rw [opened, bind_eq_ok_iff, ← fit_each]
  constructor
  · rintro ⟨found, fits, filled⟩
    exact ⟨⟨found, fits⟩, (fill_found fits).mp filled⟩
  · rintro ⟨⟨found, fits⟩, filled⟩
    exact ⟨found, fits, (fill_found fits).mpr filled⟩

theorem written_congr {others : Record}
    (same : ∀ field ∈ layout.fields, field.written? members = field.written? others) :
    layout.written members = layout.written others := by
  rw [written, written]
  exact List.filterMap_congr fun field known => by rw [same field known]

theorem names_written_sublist (layout : RecordLayout) (members : Record) :
    (Members.names (layout.written members)).Sublist layout.names := by
  rw [written, names]
  induction layout.fields with
  | nil => exact List.Sublist.refl _
  | cons field rest ih =>
      rw [List.filterMap_cons, List.map_cons]
      cases field.written? members with
      | none => exact ih.cons field.name
      | some value => exact ih.cons_cons field.name

/-- The wire has under the name of a field what there is for the field. -/
theorem get?_written (unique : layout.names.Nodup) {field : WireField}
    (known : field ∈ layout.fields) :
    Members.get? (layout.written members) field.name = field.written? members := by
  have distinct := (layout.names_written_sublist members).nodup unique
  cases held : field.written? members with
  | some value =>
      refine Members.get?_of_mem distinct (List.mem_filterMap.mpr ⟨field, known, ?_⟩)
      rw [held]
      rfl
  | none =>
      refine Members.get?_of_not_mem fun member => ?_
      obtain ⟨⟨name, value⟩, there, rfl⟩ := List.mem_map.mp member
      obtain ⟨other, also, same⟩ := List.mem_filterMap.mp there
      obtain ⟨_, inner, pair⟩ := Option.map_eq_some_iff.mp same
      have one := field?_of_mem unique also
      rw [(Prod.mk.inj pair).1, field?_of_mem unique known, Option.some.injEq] at one
      rw [← one, held] at inner
      cases inner

theorem fitEntries_nil (layout : RecordLayout) :
    layout.fitEntries [] = .ok wire ↔ layout.fit [] = .ok wire := by
  obtain ⟨name, fields⟩ := layout
  have inOrder (count : Nat) (rest : List WireField) (wire : Record) :
      fitInOrder name count 0 rest [] = .ok wire ↔ Layout.fill [] rest = .ok wire := by
    induction rest generalizing wire with
    | nil => rw [fitInOrder, Layout.fill]
    | cons field rest ih =>
        obtain ⟨first, presence, layout⟩ := field
        cases presence with
        | required => simp [fitInOrder, Layout.fill]
        | optional => simpa [fitInOrder, Layout.fill] using ih wire
        | default value =>
            simp only [fitInOrder, Layout.fill, Members.get?_nil, map_eq_ok_iff, ih]
  rw [fitEntries, RecordLayout.fit]
  exact inOrder _ _ _

end RecordLayout

/-- A list without entries fits a place for records as a record without members does. -/
theorem Layout.fit_nil_ok_iff {layout : RecordLayout} {wire : Value} :
    (record layout).fit (.list []) = .ok wire ↔ (record layout).fit (.record []) = .ok wire := by
  rw [Layout.fit, Layout.fit, map_eq_ok_iff, map_eq_ok_iff]
  simp only [layout.fitEntries_nil]

end ResourceEditor
