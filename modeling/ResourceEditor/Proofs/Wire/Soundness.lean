import ResourceEditor.Proofs.Value.Json
import ResourceEditor.Proofs.Value.Pruned
import ResourceEditor.Proofs.Wire.Written
import ResourceEditor.Wire.Resource
/-
This file says when a layout is sound: its fields have different names, and what stands for a
missing member is itself a value that the layout takes. What fits a sound layout can be written down
and read again.
-/

namespace ResourceEditor

/-- Whether what stands for a missing member is a value of the member's layout. -/
def Presence.suits : Presence → Layout → Bool
  | .default (.text _), .text => true
  | .default (.text content), .choice choices => choices.contains content
  | .default (.number (.int value)), .unsigned bits =>
      0 ≤ value.toInt && value.toInt < ((Nat.pow 2 bits : Nat) : Int)
  | .default (.list []), .list _ => true
  | .default _, _ => false
  | _, _ => true

mutual

def Layout.isSound : Layout → Bool
  | .list item => item.isSound
  | .record layout => layout.isSound
  | _ => true

def RecordLayout.isSound : RecordLayout → Bool
  | ⟨_, fields⟩ => decide (fields.map (·.name)).Nodup && RecordLayout.areSound fields

def RecordLayout.areSound : List WireField → Bool
  | [] => true
  | field :: rest => field.isSound && RecordLayout.areSound rest

def WireField.isSound : WireField → Bool
  | ⟨_, presence, layout⟩ => presence.suits layout && layout.isSound

end

theorem RecordLayout.areSound_iff (fields : List WireField) :
    areSound fields = true ↔ ∀ field ∈ fields, field.isSound = true := by
  induction fields with
  | nil => simp [areSound]
  | cons field rest ih => simp [areSound, ih]

theorem RecordLayout.isSound_iff (layout : RecordLayout) :
    layout.isSound = true ↔
      layout.names.Nodup ∧ ∀ field ∈ layout.fields, field.isSound = true := by
  obtain ⟨name, fields⟩ := layout
  rw [isSound, Bool.and_eq_true, decide_eq_true_iff, areSound_iff]
  rfl

theorem WireField.isSound_iff (field : WireField) :
    field.isSound = true ↔
      field.presence.suits field.layout = true ∧ field.layout.isSound = true := by
  obtain ⟨name, presence, layout⟩ := field
  rw [isSound, Bool.and_eq_true]

/-- The layouts of the resources are sound. -/
theorem Resource.layout_isSound (resource : Resource) : resource.layout.isSound = true := by
  cases resource <;> decide

/-- What stands for a missing member fits as it is. -/
theorem Presence.fit_default {presence : Presence} {layout : Layout} {value : Value}
    (suits : presence.suits layout = true) (own : presence.default? = some value) :
    layout.fit value = .ok value ∧ value.isMarkless = true ∧ value.pruneEntry = value := by
  cases presence with
  | required => cases own
  | optional => cases own
  | default value =>
      cases own
      match value, layout, suits with
      | .text content, .text, _ =>
          exact ⟨by rw [Layout.fit, Layout.fitText], rfl, Value.pruneEntry_of_isScalar rfl⟩
      | .text content, .choice choices, known =>
          rw [Presence.suits] at known
          exact ⟨by rw [Layout.fit, Layout.fitChoice, Layout.pick, if_pos known], rfl,
            Value.pruneEntry_of_isScalar rfl⟩
      | .number (.int number), .unsigned bits, within =>
          rw [Presence.suits, Bool.and_eq_true, decide_eq_true_iff, decide_eq_true_iff] at within
          exact ⟨by rw [Layout.fit, Layout.fitUnsigned, if_pos within]; rfl, rfl,
            Value.pruneEntry_of_isScalar rfl⟩
      | .list [], .list item, _ =>
          exact ⟨by rw [Layout.fit]; rfl, rfl, Value.pruneEntry_list []⟩

/-- A property of layouts holds everywhere if it passes on from what lies inside. -/
theorem Layout.descent (property : Layout → Prop) (text : property .text)
    (unsigned : ∀ bits, property (.unsigned bits)) (choice : ∀ choices, property (.choice choices))
    (list : ∀ item, property item → property (.list item))
    (record : ∀ layout, (∀ field ∈ layout.fields, property field.layout) →
      property (.record layout)) (layout : Layout) : property layout := by
  refine @Layout.rec property (fun layout => property (.record layout))
    (fun field => property field.layout) (fun fields => ∀ field ∈ fields, property field.layout)
    text unsigned choice list ?_ ?_ ?_ ?_ ?_ layout
  · exact fun layout held => held
  · exact fun name fields each => record ⟨name, fields⟩ each
  · exact fun name presence layout held => held
  · exact List.forall_mem_nil _
  · exact fun field rest first others => List.forall_mem_cons.mpr ⟨first, others⟩

theorem WireField.fit_some {field : WireField} {value other : Value}
    (fits : field.fit value = .ok (some other)) : field.layout.fit value = .ok other := by
  have inner (fits : (field.layout.fit value).map some = .ok (some other)) :
      field.layout.fit value = .ok other := by
    obtain ⟨_, fitted, same⟩ := map_eq_ok_iff.mp fits
    cases same
    exact fitted
  obtain ⟨name, presence, layout⟩ := field
  cases presence with
  | optional =>
      rw [WireField.fit] at fits
      split at fits
      · cases fits
      · exact inner fits
  | _ => exact inner fits

namespace RecordLayout

variable {layout : RecordLayout} {fields : List WireField} {wire : Record}

/-- Where a member of the wire comes from: what a value becomes that fits its field, or what stands
for a missing one. -/
def Brings (fields : List WireField) (value : Value) : Prop :=
  ∃ field ∈ fields, (∃ other, field.layout.fit other = .ok value) ∨
    field.presence.default? = some value

theorem Brings.cons {first : WireField} {value : Value} (brings : Brings fields value) :
    Brings (first :: fields) value := by
  obtain ⟨field, member, source⟩ := brings
  exact ⟨field, List.mem_cons_of_mem _ member, source⟩

theorem brings_of_fitNamed {name : String} {value other : Value}
    (fits : fitNamed fields name value = .ok (some other)) : Brings fields other := by
  induction fields with
  | nil => cases fits
  | cons first rest ih =>
      rw [fitNamed] at fits
      split at fits
      · exact ⟨first, List.mem_cons_self, .inl ⟨value, WireField.fit_some fits⟩⟩
      · exact (ih fits).cons

theorem brings_of_fitMembers {members found : Record}
    (fits : Layout.fitMembers (fitNamed fields) members = .ok found) :
    ∀ pair ∈ found, Brings fields pair.2 := by
  induction members generalizing found with
  | nil =>
      cases fits
      exact List.forall_mem_nil _
  | cons pair rest ih =>
      obtain ⟨name, value⟩ := pair
      rw [Layout.fitMembers] at fits
      obtain ⟨kept, here, fits⟩ := bind_eq_ok_iff.mp fits
      obtain ⟨others, later, fits⟩ := bind_eq_ok_iff.mp fits
      cases fits
      cases kept with
      | none => exact ih later
      | some other => exact List.forall_mem_cons.mpr ⟨brings_of_fitNamed here, ih later⟩

theorem brings_of_fit {members : Record} (fits : layout.fit members = .ok wire) :
    ∀ pair ∈ wire, Brings layout.fields pair.2 := by
  obtain ⟨name, fields⟩ := layout
  rw [RecordLayout.fit] at fits
  obtain ⟨found, kept, filled⟩ := bind_eq_ok_iff.mp fits
  obtain ⟨_, rfl⟩ := Layout.fill_eq_ok_iff.mp filled
  intro pair member
  obtain ⟨field, known, same⟩ := List.mem_filterMap.mp member
  obtain ⟨value, source, rfl⟩ := Option.map_eq_some_iff.mp same
  obtain there | ⟨_, own⟩ := Option.or_eq_some_iff.mp source
  · exact brings_of_fitMembers kept _ (Members.mem_of_get? there)
  · exact ⟨field, known, .inr own⟩

theorem brings_of_fitInOrder {name : String} {fieldCount entryCount : Nat} {entries : List Value}
    (fits : fitInOrder name fieldCount entryCount fields entries = .ok wire) :
    ∀ pair ∈ wire, Brings fields pair.2 := by
  induction fields generalizing entries wire with
  | nil =>
      cases entries with
      | nil =>
          cases fits
          exact List.forall_mem_nil _
      | cons entry others => cases fits
  | cons field rest ih =>
      have later {entries : List Value} {wire : Record}
          (fits : fitInOrder name fieldCount entryCount rest entries = .ok wire) :
          ∀ pair ∈ wire, Brings (field :: rest) pair.2 := fun pair member =>
        (ih fits pair member).cons
      cases entries with
      | nil =>
          rw [fitInOrder] at fits
          cases absent : field.presence with
          | required =>
              rw [absent] at fits
              cases fits
          | optional =>
              rw [absent] at fits
              exact later fits
          | default value =>
              rw [absent] at fits
              obtain ⟨others, rested, rfl⟩ := map_eq_ok_iff.mp fits
              have own : Brings (field :: rest) value :=
                ⟨field, List.mem_cons_self, .inr (by rw [absent]; rfl)⟩
              exact List.forall_mem_cons.mpr ⟨own, later rested⟩
      | cons entry others =>
          rw [fitInOrder] at fits
          obtain ⟨kept, here, fits⟩ := bind_eq_ok_iff.mp fits
          obtain ⟨more, rested, fits⟩ := bind_eq_ok_iff.mp fits
          cases fits
          cases kept with
          | none => exact later rested
          | some other =>
              have own : Brings (field :: rest) other :=
                ⟨field, List.mem_cons_self, .inl ⟨entry, WireField.fit_some here⟩⟩
              exact List.forall_mem_cons.mpr ⟨own, later rested⟩

theorem brings_of_fitEntries {entries : List Value} (fits : layout.fitEntries entries = .ok wire) :
    ∀ pair ∈ wire, Brings layout.fields pair.2 := by
  obtain ⟨name, fields⟩ := layout
  rw [fitEntries] at fits
  exact brings_of_fitInOrder fits

end RecordLayout

theorem Layout.markless_of_brings {fields : List WireField}
    (each : ∀ field ∈ fields, field.isSound = true ∧ ∀ value wire,
      field.layout.fit value = .ok wire → wire.isMarkless = true)
    {wire : Record} (brings : ∀ pair ∈ wire, RecordLayout.Brings fields pair.2) :
    (Value.record wire).isMarkless = true := by
  rw [Value.isMarkless_record]
  intro pair member
  obtain ⟨field, known, ⟨value, fits⟩ | own⟩ := brings pair member
  · exact (each field known).2 value pair.2 fits
  · exact (Presence.fit_default (field.isSound_iff.mp (each field known).1).1 own).2.1

/-- What fits a sound layout has no mark for malformed numbers. -/
theorem Layout.isMarkless_of_fit {layout : Layout} (sound : layout.isSound = true)
    {value wire : Value} (fits : layout.fit value = .ok wire) : wire.isMarkless = true := by
  refine Layout.descent (fun layout => layout.isSound = true → ∀ value wire,
    layout.fit value = .ok wire → wire.isMarkless = true) ?_ ?_ ?_ ?_ ?_ layout sound value wire fits
  · intro _ value wire fits
    rw [Layout.fit] at fits
    obtain ⟨rfl, content, rfl⟩ := fitText_ok fits
    rfl
  · intro bits _ value wire fits
    rw [Layout.fit] at fits
    obtain ⟨rfl, number, rfl, _⟩ := fitUnsigned_ok fits
    rfl
  · intro choices _ value wire fits
    rw [Layout.fit] at fits
    obtain ⟨content, rfl, _⟩ := fitChoice_ok fits
    rfl
  · intro item inside sound value wire fits
    obtain ⟨entries, others, rfl, rfl, each⟩ := fit_list_ok_iff.mp fits
    rw [Value.isMarkless_list]
    clear fits
    induction each with
    | nil => exact List.forall_mem_nil _
    | cons here _ ih => exact List.forall_mem_cons.mpr ⟨inside sound _ _ here, ih⟩
  · intro layout inside sound value wire fits
    rw [isSound, RecordLayout.isSound_iff] at sound
    have each : ∀ field ∈ layout.fields, field.isSound = true ∧ ∀ value wire,
        field.layout.fit value = .ok wire → wire.isMarkless = true := by
      intro field known
      have here := sound.2 field known
      exact ⟨here, inside field known (field.isSound_iff.mp here).2⟩
    obtain ⟨others, rfl, ⟨members, _, fitted⟩ | ⟨entries, _, fitted⟩⟩ := fit_record_ok_iff.mp fits
    · exact markless_of_brings each (RecordLayout.brings_of_fit fitted)
    · exact markless_of_brings each (RecordLayout.brings_of_fitEntries fitted)

/-- What a resource is on the wire is read from its document as it was. -/
theorem Record.ofJson_toWire {model wire : Record} {resource : Resource}
    (fits : model.toWire resource = .ok wire) : Record.ofJson wire.toJson = .ok wire := by
  refine Record.ofJson_toJson ?_
  have sound : (Layout.record resource.layout).isSound = true := by
    rw [Layout.isSound]
    exact resource.layout_isSound
  exact Layout.isMarkless_of_fit sound (Layout.fit_record fits)

end ResourceEditor
