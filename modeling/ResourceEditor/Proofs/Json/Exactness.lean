import ResourceEditor.Proofs.Value.Reread
/-
This file follows paths through documents that are read without loss: what such a document has at a
path is found at the same path of the value that is read.
-/

namespace ResourceEditor

open Decimal

namespace Json

def isNull : Json → Bool
  | .null => true
  | _ => false

theorem eq_null_of_isNull {json : Json} (null : json.isNull = true) : json = .null := by
  cases json with
  | null => rfl
  | _ => cases null

mutual

/-- Every number of the document is an integer of 64 bits, and no element of an array is null, which
would move the elements after it when the document is read. -/
def isExact : Json → Bool
  | .number (.integer value) => IsSigned value
  | .number (.float _) => false
  | .array elements => elementsExact elements
  | .object members => membersExact members
  | _ => true

def elementsExact : List Json → Bool
  | [] => true
  | element :: rest => !element.isNull && element.isExact && elementsExact rest

def membersExact : List (String × Json) → Bool
  | [] => true
  | (_, json) :: rest => json.isExact && membersExact rest

end

theorem isExact_array (elements : List Json) :
    (array elements).isExact = true ↔
      ∀ element ∈ elements, element.isNull = false ∧ element.isExact = true := by
  rw [isExact]
  induction elements with
  | nil => simp [elementsExact]
  | cons element rest ih => simp [elementsExact, ih]

theorem isExact_object (members : List (String × Json)) :
    (object members).isExact = true ↔ ∀ pair ∈ members, pair.2.isExact = true := by
  rw [isExact]
  induction members with
  | nil => simp [membersExact]
  | cons pair rest ih => simp [membersExact, ih]

theorem isExact_of_step? {json below : Json} {segment : Segment} (lossless : json.isExact = true)
    (there : json.step? segment = some below) : below.isExact = true := by
  cases json with
  | array elements =>
      cases segment with
      | field name => cases there
      | index position =>
          exact ((isExact_array elements).mp lossless below (List.mem_of_getElem? there)).2
  | object members =>
      cases segment with
      | field name =>
          exact (isExact_object members).mp lossless (name, below) (Members.mem_of_get? there)
      | index position => cases there
  | _ => cases there

theorem isExact_of_at? {json below : Json} {path : Path} (lossless : json.isExact = true)
    (there : json.at? path = some below) : below.isExact = true := by
  induction path generalizing json with
  | nil =>
      cases there
      exact lossless
  | cons segment rest ih =>
      obtain ⟨next, first, others⟩ := Option.bind_eq_some_iff.mp there
      exact ih (isExact_of_step? lossless first) others

mutual

theorem fits_of_isExact (json : Json) (lossless : json.isExact = true) : json.fits = true := by
  cases json with
  | number number =>
      cases number with
      | integer value =>
          rw [isExact, decide_eq_true_eq] at lossless
          rw [fits, Number.ofJson, Number.ofInt, if_pos lossless]
          rfl
      | float value => cases lossless
  | array elements => exact elementsFit_of_exact elements lossless
  | object members => exact membersFit_of_exact members lossless
  | _ => rfl

theorem elementsFit_of_exact (elements : List Json) (lossless : elementsExact elements = true) :
    elementsFit elements = true := by
  cases elements with
  | nil => rfl
  | cons element rest =>
      simp only [elementsExact, Bool.and_eq_true] at lossless
      rw [elementsFit, fits_of_isExact element lossless.1.2, elementsFit_of_exact rest lossless.2]
      rfl

theorem membersFit_of_exact (members : List (String × Json))
    (lossless : membersExact members = true) : membersFit members = true := by
  cases members with
  | nil => rfl
  | cons pair rest =>
      obtain ⟨name, json⟩ := pair
      simp only [membersExact, Bool.and_eq_true] at lossless
      rw [membersFit, fits_of_isExact json lossless.1, membersFit_of_exact rest lossless.2]
      rfl

end

end Json

namespace Value

/-- Only null is read as nothing. -/
theorem ofJson_eq_none_iff (json : Json) : ofJson json = none ↔ json.isNull = true := by
  cases json <;> simp [ofJson, Json.isNull]

/-- Of an array without null, every element is read to an entry. -/
theorem map_some_ofElements {elements : List Json}
    (whole : ∀ element ∈ elements, element.isNull = false) :
    (ofElements elements).map some = elements.map ofJson := by
  induction elements with
  | nil => rfl
  | cons element rest ih =>
      obtain ⟨here, later⟩ := List.forall_mem_cons.mp whole
      rw [ofElements, List.map_cons]
      cases read : ofJson element with
      | none =>
          rw [(ofJson_eq_none_iff element).mp read] at here
          cases here
      | some entry => exact congrArg (List.cons _) (ih later)

theorem length_ofElements {elements : List Json} (lossless : (Json.array elements).isExact = true) :
    (ofElements elements).length = elements.length := by
  have whole := (Json.isExact_array elements).mp lossless
  simpa using congrArg List.length (map_some_ofElements fun element member =>
    (whole element member).1)

theorem step?_ofJson {json below : Json} {value inner : Value} {segment : Segment}
    (lossless : json.isExact = true) (read : ofJson json = some value)
    (there : json.step? segment = some below) (inside : ofJson below = some inner) :
    value.step? segment = some inner := by
  cases json with
  | array elements =>
      cases segment with
      | field name => cases there
      | index position =>
          cases read
          have whole := (Json.isExact_array elements).mp lossless
          have same := congrArg (·[position]?) (map_some_ofElements fun element member =>
            (whole element member).1)
          have held : elements[position]? = some below := there
          simp only [List.getElem?_map, held, Option.map_some, inside] at same
          obtain ⟨entry, found, same⟩ := Option.map_eq_some_iff.mp same
          cases same
          exact found
  | object members =>
      cases segment with
      | field name =>
          cases read
          rw [step?_record, ofMembers_eq_choose]
          exact Members.get?_choose_of_kept there inside
      | index position => cases there
  | _ => cases there

/-- What is at a path of a document that is read without loss is read there. -/
theorem at?_ofJson {json below : Json} {value inner : Value} {path : Path}
    (lossless : json.isExact = true) (read : ofJson json = some value)
    (there : json.at? path = some below) (inside : ofJson below = some inner) :
    value.at? path = some inner := by
  induction path generalizing json value with
  | nil =>
      cases there
      rw [read] at inside
      rw [at?_nil, inside]
  | cons segment rest ih =>
      obtain ⟨next, first, others⟩ := Option.bind_eq_some_iff.mp there
      obtain ⟨held, reads⟩ : ∃ held, ofJson next = some held := by
        cases next with
        | null =>
            -- below null there is only null itself
            cases rest with
            | nil =>
                cases others
                cases inside
            | cons segment rest => cases others
        | _ => exact ⟨_, rfl⟩
      rw [at?_cons, step?_ofJson lossless read first reads]
      exact ih (Json.isExact_of_step? lossless first) reads others

/-- A document that fits is read at once as it is read after a trip through a form. -/
theorem ofMembers_membersFitting {members : List (String × Json)}
    (fits : (Json.object members).fits = true) :
    ofMembers (Json.membersFitting members) = ofMembers members := by
  have markless := isMarkless_ofJson (.object members) _ rfl
  rw [ofMembers_fitting, choose_reread (markless.trans fits)]

end Value

end ResourceEditor
