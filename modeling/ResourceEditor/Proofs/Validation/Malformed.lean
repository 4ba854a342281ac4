import ResourceEditor.Proofs.Edit.Part
import ResourceEditor.Proofs.Edit.Update
import ResourceEditor.Proofs.Validation.Visibility
import ResourceEditor.Schema.Catalog
/-
This file says when a malformed number that was typed in is reported: always, unless it stands in a
record within a record and nothing else is filled in there.
-/

namespace ResourceEditor

/-- Whether a path leads into a member record in which nothing is filled in. -/
def Record.isOverlooked (model : Record) (path : Path) : Bool :=
  (Path.lastField? path.dropLast).isSome && (model.at? path.dropLast).any Value.isEmpty

theorem Record.isOverlooked_concat {model : Record} {front : Path} {parent : Value}
    (there : (Value.record model).at? front = some parent) (segment : Segment) :
    model.isOverlooked (front ++ [segment]) = (front.lastField?.isSome && parent.isEmpty) := by
  rw [isOverlooked, List.dropLast_concat]
  by_cases some : front = []
  · subst some
    rfl
  · rw [model.at?_of_ne_nil some, there]
    rfl

/-- A malformed number that is looked at is missing where it is required and no number elsewhere. -/
theorem Visible.reported {form : Schema} {model : Record} {path : Path} {field : Field}
    {rule : ScalarRule} (visible : Visible form model path field .notANumber)
    (shape : field.shape = .scalar rule) (kind : rule.kind = .number) :
    ⟨path, .required field.title⟩ ∈ model.violations form ∨
      ⟨path, .notANumber field.title⟩ ∈ model.violations form := by
  have misfit : Misfit field .notANumber (.notANumber field.title) :=
    .notANumber shape kind rfl rfl
  simp only [Record.mem_violations_iff]
  cases visible with
  | @member _ schema record name _ _ within declared editable held =>
      by_cases required : name ∈ schema.required
      · left
        refine .required within declared editable required ?_
        intro value there
        rw [held] at there
        cases there
        rfl
      · exact .inr (.held within declared editable held (.inr ⟨rfl, required⟩) misfit)
  | entry inspected => exact .inr (.entry inspected (fun _ => .inr rfl) misfit)

/-- Nothing is reported at a name in a member record in which nothing is filled in. -/
theorem Record.allAt_overlooked {form : Schema} {model : Record} {path : Path} {name : String}
    (named : path.lastField? = some name) (overlooked : model.isOverlooked path = true) :
    Violation.allAt (model.violations form) path = [] := by
  rw [isOverlooked, Bool.and_eq_true, Option.isSome_iff_exists] at overlooked
  obtain ⟨⟨member, inMember⟩, blank⟩ := overlooked
  rw [Violation.allAt, List.filter_eq_nil_iff]
  intro violation reported here
  have place : violation.path = path := of_decide_eq_true here
  obtain ⟨schema, record, inspected⟩ :=
    (Record.mem_violations_iff.mp reported).inspected (place ▸ named)
  rw [place] at inspected
  have filled := inspected.filled_of_lastField? inMember
  have some : path.dropLast ≠ [] := by
    intro none
    rw [none] at inMember
    cases inMember
  rw [Record.at?_of_ne_nil model some, inspected.at?_eq] at blank
  exact absurd blank (ne_true_of_eq_false filled)

namespace Record

variable {schema : Schema} {model next : Record} {path : Path} {raw : String} {field : Field}
  {rule : ScalarRule}

/-- A malformed number that is typed in stands at its path, in a value that is there too. -/
theorem malformed_there {route : Route} (routed : schema.route path = .ok route)
    (last : route.leaf? = some field) (shape : field.shape = .scalar rule)
    (kind : rule.kind = .number) (malformed : Number.coerce raw = .notANumber)
    (set : setScalar schema model path raw = .ok next) :
    ∃ front segment middle parent, path = front.map Prod.fst ++ [segment] ∧
      schema.whole.Leads front middle ∧ middle.Step segment field ∧
      (Value.record next).at? (front.map Prod.fst) = some parent ∧
      parent.step? segment = some .notANumber := by
  have there := at?_of_setScalar routed last shape set
  obtain ⟨segments, some, leads⟩ := Schema.leads_of_leaf? routed last
  obtain ⟨front, segment, middle, rfl, first, final⟩ := leads.split_last some
  rw [List.map_append] at segments
  rw [← segments, Value.at?_append] at there
  obtain ⟨parent, before, after⟩ := Option.bind_eq_some_iff.mp there
  refine ⟨front, segment, middle, parent, segments.symm, first, final, before, ?_⟩
  simpa [ScalarRule.read, kind, malformed, Value.notANumber] using after

/-- A malformed number is kept as such. It is reported unless it is overlooked, and then nothing is
reported about its field. -/
theorem malformed_reported (schema : Schema) (model next : Record) (path : Path) (raw : String)
    {route : Route} {field : Field} {rule : ScalarRule} (routed : schema.route path = .ok route)
    (last : route.leaf? = some field) (shape : field.shape = .scalar rule)
    (kind : rule.kind = .number) (malformed : Number.coerce raw = .notANumber)
    (set : setScalar schema model path raw = .ok next) :
    next.at? path = some .notANumber ∧
      (next.isOverlooked path = false →
        (⟨path, .required field.title⟩ ∈ next.violations schema ∨
          ⟨path, .notANumber field.title⟩ ∈ next.violations schema) ∧
        next.isValid schema = false) ∧
      (next.isOverlooked path = true → Violation.allAt (next.violations schema) path = []) := by
  obtain ⟨front, segment, middle, parent, rfl, leads, step, before, there⟩ :=
    malformed_there routed last shape kind malformed set
  have some : front.map Prod.fst ++ [segment] ≠ [] := by simp
  refine ⟨?_, ?_, ?_⟩
  · rw [at?_of_ne_nil next some, Value.at?_append, before]
    simp [there]
  · intro seen
    rw [isOverlooked_concat before, Bool.and_eq_false_iff, Option.isSome_eq_false_iff,
      Option.isNone_iff_eq_none] at seen
    have visible := (Visible.of_leads leads before seen).step step there seen
    have reported := visible.reported shape kind
    refine ⟨reported, ?_⟩
    rw [isValid, List.isEmpty_eq_false_iff_exists_mem]
    exact reported.elim (fun member => ⟨_, member⟩) fun member => ⟨_, member⟩
  · intro overlooked
    cases segment with
    | field name => exact allAt_overlooked (Path.lastField?_child _ name) overlooked
    | index position =>
        -- a list that has an entry is not blank
        obtain ⟨entries, rfl, held⟩ := Value.list_of_step? there
        rw [isOverlooked_concat before, Value.isEmpty_list held, Bool.and_false] at overlooked
        cases overlooked

section Mask

def maskPath : Path :=
  [.field "traffic_rules", .index 0, .field "source", .field "ip_filter", .field "mask"]

def maskRule : ScalarRule := { kind := .number, minimum := some 0, maximum := some 128 }

/-- A policy with one rule, whose source is given. -/
def sourcePolicy (source : List (String × Value)) : Record :=
  [("name", .text "p"), ("traffic_rules", .list [.record (("priority", .int 1) :: source)])]

/-- The source of a rule by the address and the mask of its filter. -/
def filterSource (address : String) (mask : Value) : List (String × Value) :=
  [("source", .record [("description", .text ""), ("ip_filter", .record
    [("address", .text address), ("protocol", .text ""), ("mask", mask)])])]

theorem mask_routed : ∃ route, Schema.trafficPolicy.route maskPath = .ok route ∧
    route.leaf? = some ⟨"Mask", false, .scalar maskRule⟩ := ⟨_, rfl, rfl⟩

theorem mask_reported :
    ∃ next, setScalar .trafficPolicy (sourcePolicy (filterSource "10.0.0.1" (.int 8))) maskPath
        "abc" = .ok next ∧
      next.at? maskPath = some .notANumber ∧ next.isOverlooked maskPath = false ∧
      next.isValid .trafficPolicy = false := by
  obtain ⟨route, routed, last⟩ := mask_routed
  have set : setScalar .trafficPolicy (sourcePolicy (filterSource "10.0.0.1" (.int 8))) maskPath
      "abc" = .ok (sourcePolicy (filterSource "10.0.0.1" .notANumber)) := rfl
  have seen : (sourcePolicy (filterSource "10.0.0.1" .notANumber)).isOverlooked maskPath = false :=
    by decide
  have kept := malformed_reported .trafficPolicy _ _ maskPath "abc" routed last rfl rfl
    (by decide) set
  exact ⟨_, set, kept.1, seen, (kept.2.1 seen).2⟩

/-- A malformed mask alone in the filter of a source goes unnoticed. -/
theorem malformed_unnoticed :
    ¬∀ (schema : Schema) (model next : Record) (path : Path) (raw : String) (route : Route)
      (field : Field) (rule : ScalarRule), schema.route path = .ok route →
      route.leaf? = some field → field.shape = .scalar rule → rule.kind = .number →
      Number.coerce raw = .notANumber → setScalar schema model path raw = .ok next →
      next.isValid schema = false := by
  intro noticed
  obtain ⟨route, routed, last⟩ := mask_routed
  have set : setScalar .trafficPolicy (sourcePolicy []) maskPath "abc" =
      .ok (sourcePolicy (filterSource "" .notANumber)) := rfl
  have valid : (sourcePolicy (filterSource "" .notANumber)).isValid .trafficPolicy = true := by
    decide
  have invalid := noticed .trafficPolicy _ _ maskPath "abc" route _ maskRule routed last rfl rfl
    (by decide) set
  rw [valid] at invalid
  cases invalid

end Mask

end Record

end ResourceEditor
