import ResourceEditor.Edit.Normalize
import ResourceEditor.Proofs.Typing.Conformity
/-
This file says what a resource of the controller becomes as a form, one field at a time.
-/

namespace ResourceEditor

namespace Field

variable {field : Field} {name other : String} {model : Record}

/-- Seeds and normalizes what a record has for a field. -/
def normalizeIn (field : Field) (name : String) (model : Record) : Record :=
  match Members.get? (field.seed name model) name with
  | some value => Members.set (field.seed name model) name (field.normalize value)
  | none => field.seed name model

theorem get?_seed_of_ne (different : name ≠ other) :
    Members.get? (field.seed name model) other = Members.get? model other := by
  rw [seed]
  split
  · split
    next => rw [Members.get?_set, if_neg different]
    next => rfl
  · rfl

/-- A member is seeded if its field is a dynamic list that has no entries. -/
theorem get?_seed (field : Field) (name : String) (model : Record) :
    Members.get? (field.seed name model) name =
      if field.isDynamicList && model.lacksEntries name then
        field.blankValue.or (Members.get? model name)
      else Members.get? model name := by
  rw [seed]
  split
  · cases field.blankValue with
    | some value => exact (Members.get?_set ..).trans (if_pos rfl)
    | none => rfl
  · rfl

/-- Only what there is for a field says what it is seeded with. -/
theorem get?_seed_congr {again : Record}
    (same : Members.get? again name = Members.get? model name) :
    Members.get? (field.seed name again) name = Members.get? (field.seed name model) name := by
  rw [get?_seed, get?_seed, Record.lacksEntries, Record.lacksEntries, same]

theorem get?_normalizeIn_of_ne (different : name ≠ other) :
    Members.get? (field.normalizeIn name model) other = Members.get? model other := by
  rw [normalizeIn]
  split
  next => rw [Members.get?_set, if_neg different, get?_seed_of_ne different]
  next => exact get?_seed_of_ne different

theorem get?_normalizeIn (field : Field) (name : String) (model : Record) :
    Members.get? (field.normalizeIn name model) name =
      (Members.get? (field.seed name model) name).map field.normalize := by
  rw [normalizeIn]
  cases there : Members.get? (field.seed name model) name with
  | some value =>
      dsimp only
      rw [Members.get?_set, if_pos rfl]
      rfl
  | none => exact there

/-- The mark stays where it is, whatever the field. -/
theorem normalize_mark (field : Field) :
    field.normalize (.number .notANumber) = .number .notANumber := by
  obtain ⟨title, readOnly, shape⟩ := field
  cases shape with
  | scalar rule =>
      obtain ⟨kind, minimum, maximum, pattern, allowed, default⟩ := rule
      cases kind <;> rfl
  | _ => rfl

/-- A scalar field leaves records and lists alone. -/
theorem normalize_of_scalar (title : String) (readOnly : Bool) (rule : ScalarRule) {value : Value}
    (container : value.isScalar = false) :
    Field.normalize ⟨title, readOnly, .scalar rule⟩ value = value := by
  obtain ⟨kind, minimum, maximum, pattern, allowed, default⟩ := rule
  cases value with
  | record members => cases kind <;> rfl
  | list entries => cases kind <;> rfl
  | _ => cases container

/-- A field that is for records or lists leaves scalars alone. -/
theorem normalize_of_isScalar {field : Field} {value : Value} (kind : field.scalar? = none)
    (scalar : value.isScalar = true) : field.normalize value = value := by
  obtain ⟨title, readOnly, shape⟩ := field
  cases shape with
  | scalar rule => cases kind
  | _ =>
      cases value with
      | record members => cases scalar
      | list entries => cases scalar
      | _ => rfl

/-- No fresh entry is the mark. -/
theorem normalize_startEntry_ne (item : Field) (start : Start) :
    item.normalize (item.startEntry start) ≠ .number .notANumber := by
  obtain ⟨title, readOnly, shape⟩ := item
  cases shape with
  | scalar rule =>
      obtain ⟨kind, minimum, maximum, pattern, allowed, default⟩ := rule
      cases kind <;> exact fun same => by cases same
  | _ => exact fun same => by cases same

theorem of_isDynamicList {field : Field} (dynamic : field.isDynamicList = true) :
    ∃ item, field.shape = .list item true := by
  rw [isDynamicList] at dynamic
  split at dynamic
  next item own shape =>
    cases dynamic
    exact ⟨item, shape⟩
  next => cases dynamic

/-- A dynamic list starts with a template for its entries. -/
theorem startValue_list {field item : Field} (shape : field.shape = .list item true)
    (start : Start) : field.startValue start = some (.list [item.templateEntry]) := by
  obtain ⟨title, readOnly, _⟩ := field
  cases shape
  rfl

/-- What there is for a dynamic list after it is seeded. -/
theorem get?_seed_list {item : Field} (shape : field.shape = .list item true) :
    Members.get? (field.seed name model) name =
      if model.lacksEntries name then some (.list [item.templateEntry])
      else Members.get? model name := by
  have dynamic : field.isDynamicList = true := by rw [isDynamicList, shape]
  rw [get?_seed, dynamic, blankValue, startValue_list shape, Bool.true_and]
  rfl

theorem normalize_list {field item : Field} {dynamic : Bool}
    (shape : field.shape = .list item dynamic) (entries : List Value) :
    field.normalize (.list entries) = .list (entries.map item.normalize) := by
  obtain ⟨title, readOnly, _⟩ := field
  cases shape
  rfl

/-- A scalar field changes texts only, and those only if it is for numbers. -/
theorem normalize_scalar (field : Field) {rule : ScalarRule} (shape : field.shape = .scalar rule)
    (value : Value) :
    field.normalize value = value ∨ (rule.kind = .number ∧
      ∃ raw, value = .text raw ∧ field.normalize value = .number (Number.coerce raw)) := by
  obtain ⟨title, readOnly, _⟩ := field
  cases shape
  obtain ⟨kind, minimum, maximum, pattern, allowed, default⟩ := rule
  cases kind with
  | number =>
      cases value with
      | text raw => exact .inr ⟨rfl, raw, rfl, rfl⟩
      | _ => exact .inl rfl
  | _ => exact .inl rfl

theorem normalize_record {below : Schema} (shape : field.shape = .composite below)
    (members : Record) : field.normalize (.record members) = .record (below.normalize members) := by
  obtain ⟨title, readOnly, _⟩ := field
  cases shape
  rfl

theorem normalize_of_record? {value : Value} {below : Schema}
    (shape : field.shape = .composite below) (other : value.record? = none) :
    field.normalize value = value := by
  obtain ⟨title, readOnly, _⟩ := field
  cases shape
  cases value with
  | record members => cases other
  | _ => rfl

theorem normalize_of_list? {value : Value} {item : Field} {dynamic : Bool}
    (shape : field.shape = .list item dynamic) (other : value.list? = none) :
    field.normalize value = value := by
  obtain ⟨title, readOnly, _⟩ := field
  cases shape
  cases value with
  | list entries => cases other
  | _ => rfl

end Field

theorem Record.lacksEntries_iff (record : Record) (name : String) :
    record.lacksEntries name = true ↔
      ∀ value, Members.get? record name = some value → value = .list [] := by
  rw [lacksEntries]
  cases Members.get? record name with
  | none => simp
  | some value =>
      cases value with
      | list entries => simp
      | _ => simp

namespace Schema

variable {name : String} {field : Field} {fields : List (String × Field)}

theorem normalizeMembers_cons (rest : List (String × Field)) (model : Record) :
    normalizeMembers ((name, field) :: rest) model =
      normalizeMembers rest (field.normalizeIn name model) := by
  rw [normalizeMembers]
  rfl

theorem get?_normalizeMembers_of_not_mem (unknown : name ∉ Members.names fields) (model : Record) :
    Members.get? (normalizeMembers fields model) name = Members.get? model name := by
  induction fields generalizing model with
  | nil => rw [normalizeMembers]
  | cons pair rest ih =>
      obtain ⟨first, own⟩ := pair
      obtain ⟨different, later⟩ := List.ne_and_not_mem_of_not_mem_cons unknown
      rw [normalizeMembers_cons, ih later, Field.get?_normalizeIn_of_ne different.symm]

/-- What there is for a field is seeded and then normalized by the field, whatever else there is. -/
theorem get?_normalizeMembers (distinct : (Members.names fields).Nodup)
    (declared : (name, field) ∈ fields) (model : Record) :
    Members.get? (normalizeMembers fields model) name =
      (Members.get? (field.seed name model) name).map field.normalize := by
  induction fields generalizing model with
  | nil => cases declared
  | cons pair rest ih =>
      obtain ⟨first, own⟩ := pair
      obtain ⟨fresh, distinct⟩ := List.nodup_cons.mp distinct
      rw [normalizeMembers_cons]
      obtain same | later := List.mem_cons.mp declared
      · cases same
        rw [get?_normalizeMembers_of_not_mem fresh, Field.get?_normalizeIn]
      · have different : first ≠ name := by
          rintro rfl
          exact fresh (List.mem_map.mpr ⟨_, later, rfl⟩)
        rw [ih distinct later]
        exact congrArg _ (Field.get?_seed_congr (Field.get?_normalizeIn_of_ne different))

theorem get?_normalize {schema : Schema} (distinct : schema.isDistinct = true)
    (declared : schema.field? name = some field) (model : Record) :
    Members.get? (schema.normalize model) name =
      (Members.get? (field.seed name model) name).map field.normalize := by
  have names := (schema.isDistinct_iff.mp distinct).1
  have member := Members.mem_of_get? declared
  obtain ⟨title, fields, required, orders⟩ := schema
  rw [normalize]
  exact get?_normalizeMembers names member model

/-- What a normalized record has for a field: what the record had, normalized, or a first entry. -/
theorem get?_normalize_cases {schema : Schema} (distinct : schema.isDistinct = true)
    (declared : (name, field) ∈ schema.fields) (record : Record) :
    Members.get? (schema.normalize record) name =
        (Members.get? record name).map field.normalize ∨
      record.lacksEntries name = true ∧ ∃ item, field.shape = .list item true ∧
        Members.get? (schema.normalize record) name =
          some (.list [item.normalize item.templateEntry]) := by
  have found := Members.get?_of_mem (schema.isDistinct_iff.mp distinct).1 declared
  rw [get?_normalize distinct found]
  cases dynamic : field.isDynamicList with
  | false =>
      left
      rw [Field.get?_seed, dynamic]
      rfl
  | true =>
      obtain ⟨item, shape⟩ := Field.of_isDynamicList dynamic
      rw [Field.get?_seed_list shape]
      cases lacks : record.lacksEntries name with
      | false => exact .inl rfl
      | true => exact .inr ⟨rfl, item, shape, congrArg some (Field.normalize_list shape _)⟩

/-- Nothing is seeded where there is something else than an empty list. -/
theorem get?_normalize_of_get? {schema : Schema} {record : Record} {value : Value}
    (distinct : schema.isDistinct = true) (declared : (name, field) ∈ schema.fields)
    (held : Members.get? record name = some value) (other : value ≠ .list []) :
    Members.get? (schema.normalize record) name = some (field.normalize value) := by
  obtain same | ⟨lacks, _⟩ := get?_normalize_cases distinct declared record
  · rw [same, held]
    rfl
  · exact absurd ((record.lacksEntries_iff name).mp lacks value held) other

/-- What no field is declared for is not touched. -/
theorem get?_normalize_of_undeclared {schema : Schema} (undeclared : schema.field? name = none)
    (model : Record) :
    Members.get? (schema.normalize model) name = Members.get? model name := by
  have unknown := Members.not_mem_of_get? undeclared
  obtain ⟨title, fields, required, orders⟩ := schema
  rw [normalize]
  exact get?_normalizeMembers_of_not_mem unknown model

end Schema

section Distinct

variable {field : Field} {name : String} {model : Record}

theorem Field.isDistinct_seed (distinct : field.isDistinct = true) (name : String)
    (maps : model.isDistinct = true) : (field.seed name model).isDistinct = true := by
  rw [seed]
  split
  · split
    next value starts =>
      have conforms := (field.startsTyped upheld_isOwn distinct).member .blank value starts
      exact Record.isDistinct_set name maps conforms.isDistinct
    next => exact maps
  · exact maps

theorem Field.isDistinct_normalizeIn (distinct : field.isDistinct = true)
    (keeps : ∀ value : Value, value.isDistinct = true → (field.normalize value).isDistinct = true)
    (name : String) (maps : model.isDistinct = true) :
    (field.normalizeIn name model).isDistinct = true := by
  have seeded := field.isDistinct_seed distinct name maps
  rw [normalizeIn]
  split
  next value there =>
    have inner := ((Value.isDistinct_record _).mp seeded).2 _ (Members.mem_of_get? there)
    exact Record.isDistinct_set name seeded (keeps value inner)
  next => exact seeded

theorem Schema.isDistinct_normalizeMembers {fields : List (String × Field)}
    (each : ∀ pair ∈ fields, pair.2.isDistinct = true ∧ ∀ value : Value, value.isDistinct = true →
      (pair.2.normalize value).isDistinct = true) (maps : model.isDistinct = true) :
    (Schema.normalizeMembers fields model).isDistinct = true := by
  induction fields generalizing model with
  | nil =>
      rw [normalizeMembers]
      exact maps
  | cons pair rest ih =>
      obtain ⟨name, field⟩ := pair
      obtain ⟨⟨distinct, keeps⟩, later⟩ := List.forall_mem_cons.mp each
      rw [normalizeMembers_cons]
      exact ih later (field.isDistinct_normalizeIn distinct keeps name maps)

theorem Field.isDistinct_normalize_scalar (title : String) (readOnly : Bool) (rule : ScalarRule)
    {value : Value} (maps : value.isDistinct = true) :
    (Field.normalize ⟨title, readOnly, .scalar rule⟩ value).isDistinct = true := by
  obtain ⟨kind, minimum, maximum, pattern, allowed, default⟩ := rule
  cases kind with
  | number =>
      cases value with
      | text raw => rfl
      | _ => exact maps
  | _ => exact maps

/-- A form in which names are apart stays one when it is seeded and normalized. -/
theorem Schema.isDistinct_normalize {schema : Schema} (distinct : schema.isDistinct = true)
    (maps : model.isDistinct = true) : (schema.normalize model).isDistinct = true := by
  refine (Schema.descent
    (fun schema => schema.isDistinct = true → ∀ model : Record, model.isDistinct = true →
      (schema.normalize model).isDistinct = true)
    (fun field => field.isDistinct = true → ∀ value : Value, value.isDistinct = true →
      (field.normalize value).isDistinct = true) ?_ ?_ ?_ ?_).1 schema distinct model maps
  · intro schema each distinct model maps
    have inside := (schema.isDistinct_iff.mp distinct).2
    obtain ⟨title, fields, required, orders⟩ := schema
    rw [normalize]
    exact isDistinct_normalizeMembers
      (fun pair member => ⟨inside pair member, each pair member (inside pair member)⟩) maps
  · intro title readOnly rule _ value maps
    exact Field.isDistinct_normalize_scalar title readOnly rule maps
  · intro title readOnly below inside distinct value maps
    cases value with
    | record members => exact inside distinct members maps
    | _ => exact maps
  · intro title readOnly item dynamic inside distinct value maps
    cases value with
    | list entries =>
        refine (Value.isDistinct_list _).mpr (List.forall_mem_map.mpr fun entry member => ?_)
        exact inside distinct entry ((Value.isDistinct_list entries).mp maps entry member)
    | _ => exact maps

end Distinct

/-- A form of a resource is a map at every depth if the document is. -/
theorem Record.isDistinct_ofResource {schema : Schema} (distinct : schema.isDistinct = true)
    {document : Json} {model : Record} (maps : document.isDistinct = true)
    (read : Record.ofResource schema document = .ok model) : model.isDistinct = true := by
  cases first : Record.ofJson document with
  | error kind =>
      rw [ofResource, first] at read
      cases read
  | ok start =>
      rw [ofResource, first] at read
      cases read
      exact Schema.isDistinct_normalize distinct (Record.isDistinct_ofJson maps first)

end ResourceEditor
