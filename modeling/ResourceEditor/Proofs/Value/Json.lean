import ResourceEditor.Proofs.Value.Choice
import ResourceEditor.Proofs.Value.Lookup
import ResourceEditor.Value.Json
/-
This file follows paths through JSON documents, and finds in the document of a value what the value
holds.
-/

namespace ResourceEditor

namespace Json

/-- Goes one step down. -/
def step? : Json → Segment → Option Json
  | .object members, .field name => Members.get? members name
  | .array elements, .index position => elements[position]?
  | _, _ => none

/-- The document at a path below this one. -/
def at? (json : Json) : Path → Option Json
  | [] => some json
  | segment :: rest => (json.step? segment).bind fun below => below.at? rest

end Json

namespace Value

theorem toElements_eq_map (entries : List Value) : toElements entries = entries.map toJson := by
  induction entries with
  | nil => rfl
  | cons entry rest ih => rw [toElements, ih, List.map_cons]

theorem ofElements_eq_filterMap (elements : List Json) :
    ofElements elements = elements.filterMap ofJson := by
  induction elements with
  | nil => rfl
  | cons element rest ih =>
      rw [ofElements, List.filterMap_cons, ih]
      cases ofJson element <;> rfl

theorem ofMembers_eq_choose (members : List (String × Json)) :
    ofMembers members = Members.choose ofJson members := by
  induction members with
  | nil => rfl
  | cons pair rest ih =>
      obtain ⟨first, json⟩ := pair
      rw [ofMembers, Members.choose_cons, ih]
      cases ofJson json <;> rfl

/-- What is read for a name comes from a member of that name that is not null. -/
theorem mem_ofMembers {members : List (String × Json)} {name : String} {value : Value}
    (member : (name, value) ∈ ofMembers members) :
    ∃ json, (name, json) ∈ members ∧ ofJson json = some value := by
  rw [ofMembers_eq_choose] at member
  exact Members.mem_choose.mp member

theorem get?_toMembers (members : Record) (name : String) :
    Members.get? (toMembers members) name = (Members.get? members name).map toJson := by
  induction members with
  | nil => rfl
  | cons pair rest ih =>
      obtain ⟨first, value⟩ := pair
      rw [toMembers, Members.get?_cons, Members.get?_cons, ih]
      split <;> rfl

theorem step?_toJson (value : Value) (segment : Segment) :
    value.toJson.step? segment = (value.step? segment).map toJson := by
  cases value with
  | record members =>
      rw [toJson]
      cases segment with
      | field name => exact get?_toMembers members name
      | index position => rfl
  | list entries =>
      rw [toJson, toElements_eq_map]
      cases segment with
      | field name => rfl
      | index position => exact List.getElem?_map
  | number number => cases number <;> rfl
  | _ => rfl

/-- At every path the document of a value has the document of what the value has there. -/
theorem at?_toJson (value : Value) (path : Path) :
    value.toJson.at? path = (value.at? path).map toJson := by
  induction path generalizing value with
  | nil => rfl
  | cons segment rest ih =>
      rw [Json.at?, at?_cons, step?_toJson]
      cases value.step? segment with
      | none => rfl
      | some below => exact ih below

mutual

/-- Nowhere in the value is the mark for malformed numbers, which a document does not tell from a
member that is not there. -/
def isMarkless : Value → Bool
  | .number value => !value.isNaN
  | .record members => areMarkless members
  | .list entries => entriesMarkless entries
  | _ => true

def areMarkless : List (String × Value) → Bool
  | [] => true
  | (_, value) :: rest => value.isMarkless && areMarkless rest

def entriesMarkless : List Value → Bool
  | [] => true
  | entry :: rest => entry.isMarkless && entriesMarkless rest

end

theorem isNaN_of_isMarkless {value : Value} (markless : value.isMarkless = true) :
    value.isNaN = false := by
  cases value with
  | number number =>
      rw [isMarkless, Bool.not_eq_true'] at markless
      exact markless
  | _ => rfl

theorem isMarkless_record (members : Record) :
    (record members).isMarkless = true ↔ ∀ pair ∈ members, pair.2.isMarkless = true := by
  rw [isMarkless]
  induction members with
  | nil => simp [areMarkless]
  | cons pair rest ih => simp [areMarkless, ih]

theorem isMarkless_list (entries : List Value) :
    (list entries).isMarkless = true ↔ ∀ entry ∈ entries, entry.isMarkless = true := by
  rw [isMarkless]
  induction entries with
  | nil => simp [entriesMarkless]
  | cons entry rest ih => simp [entriesMarkless, ih]

theorem ofInt_toInt (value : Int64) : Number.ofInt value.toInt = .int value := by
  have low := value.le_toInt
  have high := value.toInt_lt
  rw [Number.ofInt, if_pos ⟨by omega, by omega⟩, Int64.ofInt_toInt]

theorem ofMembers_toMembers {members : Record}
    (each : ∀ pair ∈ members, ofJson pair.2.toJson = some pair.2) :
    ofMembers (toMembers members) = members := by
  induction members with
  | nil => rfl
  | cons pair rest ih =>
      obtain ⟨here, later⟩ := List.forall_mem_cons.mp each
      rw [toMembers, ofMembers, here, ih later]

theorem ofElements_toElements {entries : List Value}
    (each : ∀ entry ∈ entries, ofJson entry.toJson = some entry) :
    ofElements (toElements entries) = entries := by
  induction entries with
  | nil => rfl
  | cons entry rest ih =>
      obtain ⟨here, later⟩ := List.forall_mem_cons.mp each
      rw [toElements, ofElements, here, ih later]

/-- A value without marks is read from its document as it was. -/
theorem ofJson_toJson (value : Value) (markless : value.isMarkless = true) :
    ofJson value.toJson = some value := by
  refine descent (fun value => value.isMarkless = true → ofJson value.toJson = some value)
    ?_ ?_ ?_ value markless
  · intro value scalar markless
    cases value with
    | number number =>
        cases number with
        | int value =>
            rw [toJson, Json.int, ofJson, Number.ofJson, ofInt_toInt]
        | notANumber => cases markless
    | record members => cases scalar
    | list entries => cases scalar
    | _ => rfl
  · intro members each markless
    have inside := (isMarkless_record members).mp markless
    rw [toJson, ofJson,
      ofMembers_toMembers fun pair member => each pair member (inside pair member)]
  · intro entries each markless
    have inside := (isMarkless_list entries).mp markless
    rw [toJson, ofJson,
      ofElements_toElements fun entry member => each entry member (inside entry member)]

end Value

/-- A form without marks is read from its document as it was. -/
theorem Record.ofJson_toJson {model : Record} (markless : (Value.record model).isMarkless = true) :
    Record.ofJson model.toJson = .ok model := by
  have inside := (Value.isMarkless_record model).mp markless
  rw [toJson, ofJson, Value.ofMembers_toMembers fun pair member =>
    Value.ofJson_toJson pair.2 (inside pair member)]

end ResourceEditor
