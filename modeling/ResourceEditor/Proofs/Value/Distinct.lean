import ResourceEditor.Proofs.Value.Json
/-
This file holds the values in which no record has two members of one name, and the documents in
which no object has. Members stand for a map, so these are the values that stand for forms.
-/

namespace ResourceEditor

namespace Value

mutual

/-- In no record of the value two members have one name. -/
def isDistinct : Value → Bool
  | .record members => decide (Members.names members).Nodup && areDistinct members
  | .list entries => entriesDistinct entries
  | _ => true

def areDistinct : List (String × Value) → Bool
  | [] => true
  | (_, value) :: rest => value.isDistinct && areDistinct rest

def entriesDistinct : List Value → Bool
  | [] => true
  | entry :: rest => entry.isDistinct && entriesDistinct rest

end

theorem areDistinct_iff (members : List (String × Value)) :
    areDistinct members = true ↔ ∀ pair ∈ members, pair.2.isDistinct = true := by
  induction members with
  | nil => simp [areDistinct]
  | cons pair rest ih => simp [areDistinct, ih]

theorem isDistinct_record (members : Record) :
    (record members).isDistinct = true ↔
      (Members.names members).Nodup ∧ ∀ pair ∈ members, pair.2.isDistinct = true := by
  rw [isDistinct, Bool.and_eq_true, decide_eq_true_iff, areDistinct_iff]

theorem isDistinct_list (entries : List Value) :
    (list entries).isDistinct = true ↔ ∀ entry ∈ entries, entry.isDistinct = true := by
  rw [isDistinct]
  induction entries with
  | nil => simp [entriesDistinct]
  | cons entry rest ih => simp [entriesDistinct, ih]

theorem isDistinct_of_step? {value below : Value} {segment : Segment}
    (maps : value.isDistinct = true) (there : value.step? segment = some below) :
    below.isDistinct = true := by
  cases segment with
  | field name =>
      obtain ⟨members, rfl, held⟩ := record_of_step? there
      exact ((isDistinct_record members).mp maps).2 _ (Members.mem_of_get? held)
  | index position =>
      obtain ⟨entries, rfl, held⟩ := list_of_step? there
      exact (isDistinct_list entries).mp maps below (List.mem_of_getElem? held)

theorem isDistinct_at? {value below : Value} {path : Path} (maps : value.isDistinct = true)
    (there : value.at? path = some below) : below.isDistinct = true := by
  induction path generalizing value with
  | nil =>
      cases there
      exact maps
  | cons segment rest ih =>
      rw [at?_cons] at there
      obtain ⟨next, one, others⟩ := Option.bind_eq_some_iff.mp there
      exact ih (isDistinct_of_step? maps one) others

end Value

/-- In no record of the form two members have one name. -/
def Record.isDistinct (model : Record) : Bool := (Value.record model).isDistinct

theorem Record.isDistinct_set {model : Record} {value : Value} (name : String)
    (maps : model.isDistinct = true) (inner : value.isDistinct = true) :
    Record.isDistinct (Members.set model name value) = true := by
  obtain ⟨names, inside⟩ := (Value.isDistinct_record model).mp maps
  refine (Value.isDistinct_record _).mpr ⟨Members.nodup_names_set name value names, ?_⟩
  intro pair member
  obtain rfl | there := Members.mem_of_mem_set member
  · exact inner
  · exact inside pair there

namespace Json

mutual

/-- In no object of the document two members have one name. -/
def isDistinct : Json → Bool
  | .object members => decide (Members.names members).Nodup && areDistinct members
  | .array elements => elementsDistinct elements
  | _ => true

def areDistinct : List (String × Json) → Bool
  | [] => true
  | (_, json) :: rest => json.isDistinct && areDistinct rest

def elementsDistinct : List Json → Bool
  | [] => true
  | element :: rest => element.isDistinct && elementsDistinct rest

end

end Json

namespace Value

theorem names_ofMembers_sublist (members : List (String × Json)) :
    (Members.names (ofMembers members)).Sublist (Members.names members) := by
  rw [ofMembers_eq_choose]
  exact Members.names_choose_sublist ofJson members

mutual

theorem isDistinct_ofJson (json : Json) (distinct : json.isDistinct = true) (value : Value)
    (read : ofJson json = some value) : value.isDistinct = true := by
  cases json with
  | object members =>
      rw [Json.isDistinct, Bool.and_eq_true, decide_eq_true_iff] at distinct
      rw [ofJson, Option.some.injEq] at read
      subst read
      rw [isDistinct, areDistinct_ofMembers members distinct.2, Bool.and_true, decide_eq_true_iff]
      exact (names_ofMembers_sublist members).nodup distinct.1
  | array elements =>
      rw [Json.isDistinct] at distinct
      rw [ofJson, Option.some.injEq] at read
      subst read
      rw [isDistinct]
      exact entriesDistinct_ofElements elements distinct
  | _ =>
      cases read
      all_goals rfl

theorem areDistinct_ofMembers (members : List (String × Json))
    (distinct : Json.areDistinct members = true) : areDistinct (ofMembers members) = true := by
  cases members with
  | nil => rfl
  | cons pair rest =>
      obtain ⟨name, json⟩ := pair
      rw [Json.areDistinct, Bool.and_eq_true] at distinct
      rw [ofMembers]
      cases read : ofJson json with
      | none => exact areDistinct_ofMembers rest distinct.2
      | some value =>
          rw [areDistinct, isDistinct_ofJson json distinct.1 value read, Bool.true_and]
          exact areDistinct_ofMembers rest distinct.2

theorem entriesDistinct_ofElements (elements : List Json)
    (distinct : Json.elementsDistinct elements = true) :
    entriesDistinct (ofElements elements) = true := by
  cases elements with
  | nil => rfl
  | cons element rest =>
      rw [Json.elementsDistinct, Bool.and_eq_true] at distinct
      rw [ofElements]
      cases read : ofJson element with
      | none => exact entriesDistinct_ofElements rest distinct.2
      | some value =>
          rw [entriesDistinct, isDistinct_ofJson element distinct.1 value read, Bool.true_and]
          exact entriesDistinct_ofElements rest distinct.2

end

end Value

/-- A form that is read from a document without double names has none either. -/
theorem Record.isDistinct_ofJson {document : Json} {model : Record}
    (distinct : document.isDistinct = true) (read : Record.ofJson document = .ok model) :
    model.isDistinct = true := by
  cases document with
  | object members =>
      cases read
      exact Value.isDistinct_ofJson (.object members) distinct _ (by rw [Value.ofJson])
  | _ => cases read

end ResourceEditor
