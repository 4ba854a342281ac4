import ResourceEditor.Proofs.Json.Exactness
import ResourceEditor.Proofs.Json.Reading
/-
This file says where in a document the value is that is read to a path of the form. Null is read as
nothing, so an entry stands before the position of its element once an element before that is null.
-/

namespace ResourceEditor

namespace Json

variable {element : Json}

/-- The position of the element that is read as the entry at a position. The elements that are null
are passed over. -/
def elementOf : List Json → Nat → Nat
  | [], position => position
  | .null :: rest, position => elementOf rest position + 1
  | _ :: _, 0 => 0
  | _ :: rest, position + 1 => elementOf rest position + 1

/-- The step in the document that leads where a step leads in what is read from it. -/
def source : Json → Segment → Segment
  | .array elements, .index position => .index (elementOf elements position)
  | _, segment => segment

/-- The path in the document to what is read to a path. -/
def origin : Json → Path → Path
  | _, [] => []
  | json, segment :: rest =>
      json.source segment ::
        match json.step? (json.source segment) with
        | some below => below.origin rest
        | none => rest

/-- At no index of the path, and at none before it, the document has null. -/
def WholeUpTo (json : Json) (path : Path) : Prop :=
  ∀ front position rest, path = front ++ .index position :: rest →
    ∀ earlier ≤ position, json.at? (front ++ [.index earlier]) ≠ some .null

theorem elementOf_zero (whole : element.isNull = false) (rest : List Json) :
    elementOf (element :: rest) 0 = 0 := by
  cases element with
  | null => cases whole
  | _ => rfl

theorem elementOf_succ (whole : element.isNull = false) (rest : List Json) (position : Nat) :
    elementOf (element :: rest) (position + 1) = elementOf rest position + 1 := by
  cases element with
  | null => cases whole
  | _ => rfl

theorem le_elementOf (elements : List Json) (position : Nat) :
    position ≤ elementOf elements position := by
  induction elements generalizing position with
  | nil => exact Nat.le_refl position
  | cons element rest ih =>
      cases null : element.isNull with
      | true =>
          rw [eq_null_of_isNull null]
          exact Nat.le_succ_of_le (ih position)
      | false =>
          cases position with
          | zero => exact Nat.zero_le _
          | succ position =>
              rw [elementOf_succ null]
              exact Nat.succ_le_succ (ih position)

/-- An element is read to its own position just if there is no null up to it. -/
theorem elementOf_eq_iff (elements : List Json) (position : Nat) :
    elementOf elements position = position ↔
      ∀ earlier ≤ position, elements[earlier]? ≠ some .null := by
  induction elements generalizing position with
  | nil => exact iff_of_true rfl fun _ _ there => by cases there
  | cons element rest ih =>
      cases null : element.isNull with
      | true =>
          rw [eq_null_of_isNull null]
          refine iff_of_false (fun same => ?_) fun whole => whole 0 (Nat.zero_le position) rfl
          have later := le_elementOf rest position
          rw [elementOf] at same
          omega
      | false =>
          have first : (element :: rest)[0]? ≠ some .null := by
            rintro ⟨⟩
            cases null
          cases position with
          | zero =>
              refine iff_of_true (elementOf_zero null rest) fun earlier before => ?_
              rw [Nat.le_zero.mp before]
              exact first
          | succ position =>
              rw [elementOf_succ null, Nat.add_right_cancel_iff, ih]
              constructor
              · intro whole earlier before
                cases earlier with
                | zero => exact first
                | succ earlier => exact whole earlier (Nat.le_of_succ_le_succ before)
              · exact fun whole earlier before => whole (earlier + 1) (Nat.succ_le_succ before)

theorem source_eq_iff (json : Json) (segment : Segment) :
    json.source segment = segment ↔
      ∀ position, segment = .index position →
        ∀ earlier ≤ position, json.step? (.index earlier) ≠ some .null := by
  cases segment with
  | field name => exact iff_of_true (by cases json <;> rfl) fun _ other => by cases other
  | index position =>
      have same : (∀ place, Segment.index position = .index place →
          ∀ earlier ≤ place, json.step? (.index earlier) ≠ some .null) ↔
          ∀ earlier ≤ position, json.step? (.index earlier) ≠ some .null :=
        ⟨fun whole => whole position rfl, fun whole _ here => Segment.index.inj here ▸ whole⟩
      rw [same]
      cases json with
      | array elements =>
          rw [source, Segment.index.injEq]
          exact elementOf_eq_iff elements position
      | _ => exact iff_of_true rfl fun _ _ there => by cases there

theorem wholeUpTo_nil (json : Json) : json.WholeUpTo [] := by
  intro front position rest same
  exact absurd (List.append_eq_nil_iff.mp same.symm).2 (List.cons_ne_nil _ _)

theorem wholeUpTo_cons (json : Json) (segment : Segment) (rest : Path) :
    json.WholeUpTo (segment :: rest) ↔ json.source segment = segment ∧
      ∀ below, json.step? segment = some below → below.WholeUpTo rest := by
  rw [source_eq_iff]
  constructor
  · intro whole
    refine ⟨?_, fun below there front position others same earlier before null => ?_⟩
    · rintro position rfl earlier before null
      refine whole [] position rest rfl earlier before ?_
      rw [List.nil_append, at?, null]
      rfl
    · refine whole (segment :: front) position others (by rw [same, List.cons_append])
        earlier before ?_
      rw [List.cons_append, at?, there]
      exact null
  · rintro ⟨first, others⟩ front position left same earlier before null
    cases front with
    | nil =>
        cases same
        obtain ⟨below, there, last⟩ := Option.bind_eq_some_iff.mp null
        cases last
        exact first position rfl earlier before there
    | cons _ front =>
        cases same
        obtain ⟨below, there, null⟩ := Option.bind_eq_some_iff.mp null
        exact others below there front position left rfl earlier before null

/-- A path leads to the same place in the document just if no null moves it. -/
theorem origin_eq_iff (json : Json) (path : Path) :
    json.origin path = path ↔ json.WholeUpTo path := by
  induction path generalizing json with
  | nil => exact iff_of_true rfl json.wholeUpTo_nil
  | cons segment rest ih =>
      rw [wholeUpTo_cons, origin, List.cons_eq_cons]
      refine and_congr_right fun same => ?_
      rw [same]
      cases there : json.step? segment with
      | none => exact iff_of_true rfl fun _ other => by cases other
      | some below => simp [ih below]

end Json

namespace Value

variable {json : Json} {value : Value}

theorem getElem?_ofElements (elements : List Json) (position : Nat) :
    (ofElements elements)[position]? = elements[Json.elementOf elements position]?.bind ofJson := by
  induction elements generalizing position with
  | nil => rfl
  | cons element rest ih =>
      cases null : element.isNull with
      | true =>
          rw [Json.eq_null_of_isNull null]
          exact ih position
      | false =>
          obtain ⟨entry, read⟩ : ∃ entry, ofJson element = some entry := by
            rw [← Option.ne_none_iff_exists', ne_eq, ofJson_eq_none_iff, null]
            exact Bool.false_ne_true
          rw [ofElements, read]
          cases position with
          | zero =>
              rw [Json.elementOf_zero null]
              exact read.symm
          | succ position =>
              rw [Json.elementOf_succ null]
              exact ih position

theorem step?_ofJson_source (distinct : json.isDistinct = true) (read : ofJson json = some value)
    (segment : Segment) :
    value.step? segment = (json.step? (json.source segment)).bind ofJson := by
  cases json with
  | object members =>
      cases read
      cases segment with
      | field name =>
          rw [step?_record, ofMembers_eq_choose]
          exact Members.get?_choose ((Json.isDistinct_object members).mp distinct).1 name
      | index position => rfl
  | array elements =>
      cases read
      cases segment with
      | field name => rfl
      | index position => exact getElem?_ofElements elements position
  | null => cases read
  | _ =>
      cases read
      cases segment <;> rfl

/-- What is read to a path is read from where the path comes from. -/
theorem at?_ofJson_origin (distinct : json.isDistinct = true) (read : ofJson json = some value)
    (path : Path) : value.at? path = (json.at? (json.origin path)).bind ofJson := by
  induction path generalizing json value with
  | nil => exact read.symm
  | cons segment rest ih =>
      rw [at?_cons, Json.origin, Json.at?, step?_ofJson_source distinct read]
      cases there : json.step? (json.source segment) with
      | none => rfl
      | some below =>
          dsimp only [Option.bind_some]
          cases inside : ofJson below with
          | some held => exact ih (Json.isDistinct_of_step? distinct there) inside
          | none =>
              -- below null there is only null itself, which is read as nothing
              rw [Json.eq_null_of_isNull ((ofJson_eq_none_iff below).mp inside)]
              cases rest <;> rfl

end Value

namespace Record

/-- What a form holds at a path is read from where the path comes from in the document. That is the
path itself just if the document has no null at an index of the path or before it. -/
theorem held_from_origin (document : Json) (model : Record)
    (distinct : document.isDistinct = true) (read : Record.ofJson document = .ok model) :
    (∀ path held, path ≠ [] → (model.at? path = some held ↔
      ∃ source, document.at? (document.origin path) = some source ∧
        Value.ofJson source = some held)) ∧
    ∀ path, document.origin path = path ↔ document.WholeUpTo path := by
  refine ⟨fun path held below => ?_, document.origin_eq_iff⟩
  have whole : Value.ofJson document = some (.record model) := by
    cases document with
    | object members =>
        cases read
        rfl
    | _ => cases read
  rw [at?_of_ne_nil _ below, Value.at?_ofJson_origin distinct whole, Option.bind_eq_some_iff]

section Shifted

/-- Two ports, of which the first is null. -/
def shiftedPorts : Json :=
  .object [("ports", .array [.null, .object [("port", .int 80)]])]

theorem shiftedPorts_held :
    shiftedPorts.isDistinct = true ∧
      Record.ofJson shiftedPorts = .ok [("ports", .list [.record [("port", .int 80)]])] ∧
      shiftedPorts.origin [.field "ports", .index 0, .field "port"] =
        [.field "ports", .index 1, .field "port"] ∧
      (∃ source, shiftedPorts.at? [.field "ports", .index 1, .field "port"] = some source ∧
        Value.ofJson source = some (.int 80)) ∧
      ¬ shiftedPorts.WholeUpTo [.field "ports", .index 0, .field "port"] := by
  have moved : shiftedPorts.origin [.field "ports", .index 0, .field "port"] =
      [.field "ports", .index 1, .field "port"] := rfl
  obtain ⟨held, same⟩ :=
    held_from_origin shiftedPorts [("ports", .list [.record [("port", .int 80)]])] rfl rfl
  have port := held [.field "ports", .index 0, .field "port"] (.int 80) (List.cons_ne_nil _ _)
  rw [moved] at port
  refine ⟨rfl, rfl, moved, port.mp rfl, fun whole => ?_⟩
  have stays := (same _).mpr whole
  rw [moved] at stays
  cases stays

/-- A path of the form does not always lead in the document to the scalar that was read to it. -/
theorem shiftedPorts_misplaced :
    ¬ ∀ (document : Json) (model : Record) (path : Path) (held : Value),
      document.isDistinct = true → Record.ofJson document = .ok model →
        model.at? path = some held → held.isScalar = true →
          ∃ source, document.at? path = some source ∧ Value.ofJson source = some held := by
  intro kept
  obtain ⟨source, there, _⟩ := kept shiftedPorts [("ports", .list [.record [("port", .int 80)]])]
    [.field "ports", .index 0, .field "port"] (.int 80) rfl rfl rfl rfl
  cases there

end Shifted

end Record

end ResourceEditor
