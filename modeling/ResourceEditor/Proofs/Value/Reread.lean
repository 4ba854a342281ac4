import ResourceEditor.Proofs.Value.Distinct
/-
This file says what a document becomes that is read, written out and read again: the numbers that do
not fit into a form are gone, and the rest is as it is read at once. In the same way a form that is
written and read again loses the marks for malformed numbers, with the members and entries that held
them, and nothing else.
-/

namespace ResourceEditor

namespace Json

mutual

/-- Every number of the document has an integer part of 64 bits. -/
def fits : Json → Bool
  | .number value => !(Number.ofJson value).isNaN
  | .array elements => elementsFit elements
  | .object members => membersFit members
  | _ => true

def elementsFit : List Json → Bool
  | [] => true
  | element :: rest => element.fits && elementsFit rest

def membersFit : List (String × Json) → Bool
  | [] => true
  | (_, json) :: rest => json.fits && membersFit rest

end

mutual

/-- The document without the numbers that do not fit. -/
def fitting : Json → Option Json
  | .number value => if (Number.ofJson value).isNaN then none else some (.number value)
  | .array elements => some (.array (elementsFitting elements))
  | .object members => some (.object (membersFitting members))
  | json => some json

def elementsFitting : List Json → List Json
  | [] => []
  | element :: rest =>
      match element.fitting with
      | some kept => kept :: elementsFitting rest
      | none => elementsFitting rest

def membersFitting : List (String × Json) → List (String × Json)
  | [] => []
  | (name, json) :: rest =>
      match json.fitting with
      | some kept => (name, kept) :: membersFitting rest
      | none => membersFitting rest

end

end Json

namespace Value

/-- A value is read again from its document. -/
def reread (value : Value) : Option Value := ofJson value.toJson

theorem reread_list (entries : List Value) :
    reread (.list entries) = some (.list (entries.filterMap reread)) := by
  rw [reread, toJson, ofJson, toElements_eq_map, ofElements_eq_filterMap, List.filterMap_map]
  rfl

theorem ofMembers_toMembers_eq_choose (members : Record) :
    ofMembers (toMembers members) = Members.choose reread members := by
  induction members with
  | nil => rfl
  | cons pair rest ih =>
      obtain ⟨name, value⟩ := pair
      rw [toMembers, ofMembers, Members.choose_cons, ih, reread]
      cases ofJson value.toJson <;> rfl

theorem reread_record (members : Record) :
    reread (.record members) = some (.record (Members.choose reread members)) := by
  rw [reread, toJson, ofJson, ofMembers_toMembers_eq_choose]

/-- Members without marks are read again as they are. -/
theorem choose_reread {members : Record} (markless : (record members).isMarkless = true) :
    Members.choose reread members = members := by
  have again := ofJson_toJson (.record members) markless
  rw [← reread, reread_record] at again
  exact record.inj (Option.some.inj again)

/-- Only the mark is lost. -/
theorem reread_eq_none_iff (value : Value) : value.reread = none ↔ value = notANumber := by
  cases value with
  | number number => cases number <;> simp [reread, toJson, ofJson, notANumber, Json.int]
  | record members => simp [reread_record, notANumber]
  | list entries => simp [reread_list, notANumber]
  | _ => simp [reread, toJson, ofJson, notANumber]

mutual

theorem ofJson_fitting (json : Json) :
    json.fitting.bind ofJson = (ofJson json).bind reread := by
  cases json with
  | null => rfl
  | bool flag => rfl
  | string text => rfl
  | number value =>
      rw [Json.fitting, ofJson, Option.bind_some]
      cases held : Number.ofJson value with
      | int integer =>
          rw [reread, ofJson_toJson (.number (.int integer)) rfl]
          simp [Number.isNaN, ofJson, held]
      | notANumber => rfl
  | array elements =>
      rw [Json.fitting, ofJson, Option.bind_some, Option.bind_some, ofJson, reread_list,
        ofElements_fitting elements]
  | object members =>
      rw [Json.fitting, ofJson, Option.bind_some, Option.bind_some, ofJson, reread_record,
        ofMembers_fitting members]

theorem ofElements_fitting (elements : List Json) :
    ofElements (Json.elementsFitting elements) = (ofElements elements).filterMap reread := by
  cases elements with
  | nil => rfl
  | cons element rest =>
      have here := ofJson_fitting element
      rw [Json.elementsFitting, ofElements]
      cases kept : element.fitting with
      | none =>
          rw [kept, Option.bind_none] at here
          cases read : ofJson element with
          | none => exact ofElements_fitting rest
          | some value =>
              rw [read, Option.bind_some] at here
              dsimp only
              rw [List.filterMap_cons, ← here, ofElements_fitting rest]
      | some other =>
          rw [kept, Option.bind_some] at here
          dsimp only
          rw [ofElements, here, ofElements_fitting rest]
          cases read : ofJson element with
          | none => rfl
          | some value =>
              rw [Option.bind_some, List.filterMap_cons]
              cases value.reread <;> rfl

theorem ofMembers_fitting (members : List (String × Json)) :
    ofMembers (Json.membersFitting members) = Members.choose reread (ofMembers members) := by
  cases members with
  | nil => rfl
  | cons pair rest =>
      obtain ⟨name, json⟩ := pair
      have here := ofJson_fitting json
      rw [Json.membersFitting, ofMembers]
      cases kept : json.fitting with
      | none =>
          rw [kept, Option.bind_none] at here
          cases read : ofJson json with
          | none => exact ofMembers_fitting rest
          | some value =>
              rw [read, Option.bind_some] at here
              dsimp only
              rw [Members.choose_cons, ← here, ofMembers_fitting rest]
      | some other =>
          rw [kept, Option.bind_some] at here
          dsimp only
          rw [ofMembers, here, ofMembers_fitting rest]
          cases read : ofJson json with
          | none => rfl
          | some value =>
              rw [Option.bind_some, Members.choose_cons]
              cases value.reread <;> rfl

end

mutual

/-- What is read from a document has a mark wherever a number does not fit. -/
theorem isMarkless_ofJson (json : Json) (value : Value) (read : ofJson json = some value) :
    value.isMarkless = json.fits := by
  cases json with
  | number number =>
      cases read
      rfl
  | array elements =>
      cases read
      exact entriesMarkless_ofElements elements
  | object members =>
      cases read
      exact areMarkless_ofMembers members
  | _ =>
      cases read
      all_goals rfl

theorem entriesMarkless_ofElements (elements : List Json) :
    entriesMarkless (ofElements elements) = Json.elementsFit elements := by
  cases elements with
  | nil => rfl
  | cons element rest =>
      rw [ofElements, Json.elementsFit]
      cases read : ofJson element with
      | none =>
          have fits : element.fits = true := by
            cases element <;> first | rfl | cases read
          rw [fits, Bool.true_and]
          exact entriesMarkless_ofElements rest
      | some value =>
          dsimp only
          rw [entriesMarkless, isMarkless_ofJson element value read,
            entriesMarkless_ofElements rest]

theorem areMarkless_ofMembers (members : List (String × Json)) :
    areMarkless (ofMembers members) = Json.membersFit members := by
  cases members with
  | nil => rfl
  | cons pair rest =>
      obtain ⟨name, json⟩ := pair
      rw [ofMembers, Json.membersFit]
      cases read : ofJson json with
      | none =>
          have fits : json.fits = true := by
            cases json <;> first | rfl | cases read
          rw [fits, Bool.true_and]
          exact areMarkless_ofMembers rest
      | some value =>
          dsimp only
          rw [areMarkless, isMarkless_ofJson json value read, areMarkless_ofMembers rest]

end

/-- What is read again has no marks. -/
theorem isMarkless_reread (value : Value) :
    ∀ again, value.reread = some again → again.isMarkless = true := by
  refine descent (fun value => ∀ again, value.reread = some again → again.isMarkless = true)
    ?_ ?_ ?_ value
  · intro value scalar again read
    cases value with
    | number number =>
        cases number with
        | int integer =>
            rw [reread, ofJson_toJson (.number (.int integer)) rfl] at read
            cases read
            rfl
        | notANumber => cases read
    | record members => cases scalar
    | list entries => cases scalar
    | _ =>
        cases read
        all_goals rfl
  · intro members each again read
    rw [reread_record, Option.some.injEq] at read
    subst read
    refine (isMarkless_record _).mpr ?_
    rintro ⟨name, value⟩ member
    obtain ⟨before, there, same⟩ := Members.mem_choose.mp member
    exact each _ there value same
  · intro entries each again read
    rw [reread_list, Option.some.injEq] at read
    subst read
    refine (isMarkless_list _).mpr fun entry member => ?_
    obtain ⟨before, there, same⟩ := List.mem_filterMap.mp member
    exact each before there entry same

mutual

/-- The value without the members and entries that are the mark for malformed numbers. -/
def unmarked : Value → Value
  | .record members => .record (unmarkedMembers members)
  | .list entries => .list (unmarkedEntries entries)
  | value => value

def unmarkedMembers : List (String × Value) → List (String × Value)
  | [] => []
  | (name, value) :: rest =>
      if value.isNaN then unmarkedMembers rest
      else (name, value.unmarked) :: unmarkedMembers rest

def unmarkedEntries : List Value → List Value
  | [] => []
  | entry :: rest =>
      if entry.isNaN then unmarkedEntries rest else entry.unmarked :: unmarkedEntries rest

end

/-- A value is read again without the marks, unless it is the mark. -/
def RereadUnmarked (value : Value) : Prop :=
  value.reread = if value.isNaN then none else some value.unmarked

theorem choose_reread_unmarked {members : Record}
    (each : ∀ pair ∈ members, pair.2.RereadUnmarked) :
    Members.choose reread members = unmarkedMembers members := by
  induction members with
  | nil => rfl
  | cons pair rest ih =>
      obtain ⟨name, value⟩ := pair
      obtain ⟨here, later⟩ := List.forall_mem_cons.mp each
      rw [Members.choose_cons, here, unmarkedMembers, ih later]
      cases value.isNaN <;> rfl

theorem filterMap_reread_unmarked {entries : List Value}
    (each : ∀ entry ∈ entries, entry.RereadUnmarked) :
    entries.filterMap reread = unmarkedEntries entries := by
  induction entries with
  | nil => rfl
  | cons entry rest ih =>
      obtain ⟨here, later⟩ := List.forall_mem_cons.mp each
      rw [List.filterMap_cons, here, unmarkedEntries, ih later]
      cases entry.isNaN <;> rfl

theorem rereadUnmarked_of_isScalar {value : Value} (scalar : value.isScalar = true) :
    value.RereadUnmarked := by
  cases value with
  | number number =>
      cases number with
      | int integer => exact ofJson_toJson (.number (.int integer)) rfl
      | notANumber => rfl
  | record members => cases scalar
  | list entries => cases scalar
  | _ => rfl

theorem rereadUnmarked (value : Value) : value.RereadUnmarked := by
  refine descent RereadUnmarked (fun _ => rereadUnmarked_of_isScalar) ?_ ?_ value
  · intro members each
    rw [RereadUnmarked, reread_record, choose_reread_unmarked each]
    rfl
  · intro entries each
    rw [RereadUnmarked, reread_list, filterMap_reread_unmarked each]
    rfl

theorem reread_of_isNaN {value : Value} (plain : value.isNaN = false) :
    value.reread = some value.unmarked := by
  rw [value.rereadUnmarked, plain]
  rfl

theorem isMarkless_iff_unmarked {value : Value} (plain : value.isNaN = false) :
    value.isMarkless = true ↔ value.unmarked = value := by
  have again := reread_of_isNaN plain
  constructor
  · intro markless
    rw [reread, ofJson_toJson value markless] at again
    exact (Option.some.inj again).symm
  · intro same
    have markless := value.isMarkless_reread _ again
    rwa [same] at markless

end Value

namespace Record

def unmarked (model : Record) : Record := Value.unmarkedMembers model

/-- The document of a form is always read, to the form without its marks. That is the form itself
just if it has none. -/
theorem ofJson_toJson_unmarked (model : Record) :
    Record.ofJson model.toJson = .ok model.unmarked ∧
      ((Value.record model).isMarkless = true ↔ model.unmarked = model) := by
  constructor
  · rw [toJson, ofJson, Value.ofMembers_toMembers_eq_choose,
      Value.choose_reread_unmarked fun pair _ => pair.2.rereadUnmarked, unmarked]
  · rw [Value.isMarkless_iff_unmarked rfl, Value.unmarked, Value.record.injEq, unmarked]

/-- Marks are dropped also from a list, while what is blank stays. -/
example :
    unmarked [("mask", .notANumber), ("name", .text ""), ("imsis", .list [.notANumber, .int 1]),
      ("source", .record [("begin_port", .notANumber)])] =
    [("name", .text ""), ("imsis", .list [.int 1]), ("source", .record [])] := rfl

end Record

end ResourceEditor
