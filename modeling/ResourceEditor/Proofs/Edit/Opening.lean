import ResourceEditor.Proofs.Edit.Normalization
import ResourceEditor.Proofs.Value.Reread
import ResourceEditor.Schema.Catalog
/-
This file says all that happens to a resource that is opened as a form: texts that stand for numbers
are read, dynamic lists without entries get one, and the rest stays in its place. A form that is
opened once more stays as it is.
-/

namespace ResourceEditor

/-- The names of the dynamic lists that a record does not have, in the order of the schema. -/
def Schema.missingLists (schema : Schema) (record : Record) : List String :=
  Members.names
    (schema.fields.filter fun pair => pair.2.isDynamicList && !Members.has record pair.1)

/-- What a value of a resource becomes when it is opened as the value of a field. -/
inductive Value.Opens : Field → Value → Value → Prop where
  | number {field : Field} {rule : ScalarRule} {raw : String} (shape : field.shape = .scalar rule)
      (kind : rule.kind = .number) : Opens field (.text raw) (.number (Number.coerce raw))
  | scalar {field : Field} {rule : ScalarRule} {value : Value} (shape : field.shape = .scalar rule)
      (plain : rule.kind = .number → ∀ raw, value ≠ .text raw) : Opens field value value
  | record {field : Field} {schema : Schema} {members others : Record}
      (shape : field.shape = .composite schema)
      (names : Members.names others = Members.names members ++ schema.missingLists members)
      (undeclared : ∀ name, schema.field? name = none →
        Members.get? others name = Members.get? members name)
      (held : ∀ name inner old new, schema.field? name = some inner →
        Members.get? members name = some old → ¬ (inner.isDynamicList = true ∧ old = .list []) →
        Members.get? others name = some new → Opens inner old new)
      (seeded : ∀ name inner item new, schema.field? name = some inner →
        inner.shape = .list item true → members.lacksEntries name = true →
        Members.get? others name = some new → Opens inner (.list [item.templateEntry]) new) :
      Opens field (.record members) (.record others)
  | list {field item : Field} {dynamic : Bool} {entries others : List Value}
      (shape : field.shape = .list item dynamic) (length : others.length = entries.length)
      (each : ∀ (position : Nat) (old new : Value), entries[position]? = some old →
        others[position]? = some new → Opens item old new) :
      Opens field (.list entries) (.list others)
  | noRecord {field : Field} {schema : Schema} {value : Value}
      (shape : field.shape = .composite schema) (other : value.record? = none) :
      Opens field value value
  | noList {field item : Field} {dynamic : Bool} {value : Value}
      (shape : field.shape = .list item dynamic) (other : value.list? = none) :
      Opens field value value

section Names

variable {name : String} {field : Field} {fields : List (String × Field)}

theorem Record.lacksEntries_of_has {model : Record} (missing : Members.has model name = false) :
    model.lacksEntries name = true := by
  rw [Members.has, Option.isSome_eq_false_iff, Option.isNone_iff_eq_none] at missing
  rw [lacksEntries, missing]

/-- A field gives a record a name at most, that of a dynamic list that the record does not have. -/
theorem Field.names_normalizeIn (field : Field) (name : String) (model : Record) :
    Members.names (field.normalizeIn name model) =
      if field.isDynamicList && !Members.has model name then Members.names model ++ [name]
      else Members.names model := by
  have inside : Members.names (field.normalizeIn name model) =
      Members.names (field.seed name model) := by
    rw [normalizeIn]
    split
    next value held =>
      exact Members.names_set_of_mem (Members.mem_names_of_get? held) _
    next => rfl
  rw [inside, seed]
  cases dynamic : field.isDynamicList with
  | false => rfl
  | true =>
      obtain ⟨item, shape⟩ := of_isDynamicList dynamic
      rw [blankValue, startValue_list shape]
      cases listed : Members.has model name with
      | true =>
          have there := (Members.has_iff_mem_names model name).mp listed
          split
          next => exact Members.names_set_of_mem there _
          next => rfl
      | false =>
          have absent : name ∉ Members.names model := by
            rw [← Members.has_iff_mem_names, listed]
            exact Bool.false_ne_true
          rw [Record.lacksEntries_of_has listed]
          simp only [Bool.and_true, if_true, Bool.not_false]
          rw [Members.names_set, if_neg absent]

theorem Field.has_normalizeIn_of_ne {other : String} (different : name ≠ other) (model : Record) :
    Members.has (field.normalizeIn name model) other = Members.has model other := by
  rw [Members.has, Members.has, get?_normalizeIn_of_ne different]

/-- Members keep their places, and dynamic lists that are missing come last. -/
theorem Schema.names_normalizeMembers (distinct : (Members.names fields).Nodup) (model : Record) :
    Members.names (normalizeMembers fields model) = Members.names model ++
      Members.names
        (fields.filter fun pair => pair.2.isDynamicList && !Members.has model pair.1) := by
  induction fields generalizing model with
  | nil =>
      rw [normalizeMembers]
      exact (List.append_nil _).symm
  | cons pair rest ih =>
      obtain ⟨name, field⟩ := pair
      obtain ⟨fresh, distinct⟩ := List.nodup_cons.mp distinct
      -- the fields that come later find what the record had for them
      have later : (rest.filter fun pair =>
            pair.2.isDynamicList && !Members.has (field.normalizeIn name model) pair.1) =
          rest.filter fun pair => pair.2.isDynamicList && !Members.has model pair.1 := by
        refine List.filter_congr fun pair member => ?_
        have different : name ≠ pair.1 := by
          rintro rfl
          exact fresh (List.mem_map.mpr ⟨pair, member, rfl⟩)
        rw [Field.has_normalizeIn_of_ne different]
      rw [normalizeMembers_cons, ih distinct, later, Field.names_normalizeIn, List.filter_cons]
      split
      next => simp [Members.names]
      next => rfl

theorem Schema.normalize_eq (schema : Schema) (model : Record) :
    schema.normalize model = normalizeMembers schema.fields model := by
  obtain ⟨title, fields, required, orders⟩ := schema
  rw [normalize]

theorem Schema.names_normalize {schema : Schema} (distinct : schema.isDistinct = true)
    (model : Record) :
    Members.names (schema.normalize model) =
      Members.names model ++ schema.missingLists model := by
  rw [normalize_eq, names_normalizeMembers (schema.isDistinct_iff.mp distinct).1]
  rfl

end Names

section Result

variable {schema : Schema} {field : Field} {name : String}

/-- What is no empty list of a dynamic field is not seeded. -/
theorem Field.get?_seed_of_held {name : String} {members : Record} {old : Value}
    (there : Members.get? members name = some old)
    (entries : ¬ (field.isDynamicList = true ∧ old = .list [])) :
    Members.get? (field.seed name members) name = some old := by
  rw [get?_seed, if_neg, there]
  rw [Bool.and_eq_true, Record.lacksEntries_iff]
  exact fun ⟨dynamic, lacks⟩ => entries ⟨dynamic, lacks old there⟩

/-- A record is opened as its schema normalizes it, if the values of its fields are. -/
theorem Schema.opens_normalize (distinct : schema.isDistinct = true)
    (fields : ∀ pair ∈ schema.fields, ∀ value : Value, value.Opens pair.2 (pair.2.normalize value))
    (shape : field.shape = .composite schema) (members : Record) :
    (Value.record members).Opens field (.record (schema.normalize members)) := by
  have opens {name : String} {inner : Field} (declared : schema.field? name = some inner)
      (value : Value) : value.Opens inner (inner.normalize value) :=
    fields _ (Members.mem_of_get? declared) value
  refine .record shape (names_normalize distinct members) ?_ ?_ ?_
  · intro name undeclared
    exact get?_normalize_of_undeclared undeclared members
  · intro name inner old new declared there entries found
    rw [get?_normalize distinct declared, Field.get?_seed_of_held there entries] at found
    cases found
    exact opens declared old
  · intro name inner item new declared outline lacks found
    rw [get?_normalize distinct declared, Field.get?_seed_list outline, lacks, if_pos rfl] at found
    cases found
    exact opens declared _

theorem Field.normalize_number {rule : ScalarRule} (shape : field.shape = .scalar rule)
    (kind : rule.kind = .number) (raw : String) :
    field.normalize (.text raw) = .number (Number.coerce raw) := by
  obtain ⟨title, readOnly, _⟩ := field
  cases shape
  obtain ⟨_, minimum, maximum, pattern, allowed, default⟩ := rule
  cases kind
  rfl

/-- Whatever a resource has for a field is opened as the field normalizes it. -/
theorem Field.opens_normalize (distinct : field.isDistinct = true) (value : Value) :
    value.Opens field (field.normalize value) := by
  refine (Schema.descent
    (fun schema => schema.isDistinct = true → ∀ (field : Field) (members : Record),
      field.shape = .composite schema →
      (Value.record members).Opens field (.record (schema.normalize members)))
    (fun field => field.isDistinct = true → ∀ value : Value,
      value.Opens field (field.normalize value)) ?_ ?_ ?_ ?_).2 field distinct value
  · intro schema each distinct field members shape
    have inside := (schema.isDistinct_iff.mp distinct).2
    exact schema.opens_normalize distinct (fun pair member => each pair member (inside pair member))
      shape members
  · intro title readOnly rule _ value
    obtain same | ⟨kind, raw, rfl, read⟩ := normalize_scalar ⟨title, readOnly, _⟩ rfl value
    · rw [same]
      refine .scalar rfl fun kind raw text => ?_
      subst text
      rw [normalize_number rfl kind] at same
      cases same
    · rw [read]
      exact .number rfl kind
  · intro title readOnly below inside distinct value
    obtain other | ⟨members, rfl⟩ := value.record?_cases
    · rw [normalize_of_record? rfl other]
      exact .noRecord rfl other
    · rw [normalize_record rfl]
      exact inside distinct _ members rfl
  · intro title readOnly item dynamic inside distinct value
    obtain other | ⟨entries, rfl⟩ := value.list?_cases
    · rw [normalize_of_list? rfl other]
      exact .noList rfl other
    · rw [normalize_list rfl]
      refine .list rfl (List.length_map _) fun position old new there found => ?_
      rw [List.getElem?_map, there] at found
      cases found
      exact inside distinct old

end Result

section Unique

variable {schema : Schema} {field : Field} {value new : Value}

theorem Schema.isDynamicList_of_mem_missingLists (distinct : schema.isDistinct = true)
    {members : Record} {name : String} {inner : Field} (declared : schema.field? name = some inner)
    (missing : name ∈ schema.missingLists members) :
    inner.isDynamicList = true ∧ members.lacksEntries name = true := by
  obtain ⟨⟨_, found⟩, member, rfl⟩ := List.mem_map.mp missing
  obtain ⟨listed, lacking⟩ := List.mem_filter.mp member
  rw [Bool.and_eq_true, Bool.not_eq_true'] at lacking
  have same := Members.get?_of_mem (schema.isDistinct_iff.mp distinct).1 listed
  cases declared.symm.trans same
  exact ⟨lacking.1, Record.lacksEntries_of_has lacking.2⟩

theorem Schema.nodup_missingLists (distinct : schema.isDistinct = true) {members : Record}
    (maps : (Members.names members).Nodup) :
    (Members.names members ++ schema.missingLists members).Nodup := by
  have names := (schema.isDistinct_iff.mp distinct).1
  refine List.nodup_append.mpr ⟨maps, (List.filter_sublist.map _).nodup names, ?_⟩
  rintro name listed _ missing rfl
  obtain ⟨pair, member, rfl⟩ := List.mem_map.mp missing
  have absent := (List.mem_filter.mp member).2
  rw [(Members.has_iff_mem_names members pair.1).mpr listed] at absent
  simp at absent

/-- What there is for a declared field after seeding was there before, or is a first entry. -/
theorem Schema.held_or_seeded (distinct : schema.isDistinct = true) {members : Record}
    {name : String} {inner : Field} (declared : schema.field? name = some inner)
    (listed : name ∈ Members.names members ++ schema.missingLists members) :
    (∃ old, Members.get? members name = some old ∧
      ¬ (inner.isDynamicList = true ∧ old = .list [])) ∨
    ∃ item, inner.shape = .list item true ∧ members.lacksEntries name = true := by
  have seeds (dynamic : inner.isDynamicList = true) (lacks : members.lacksEntries name = true) :
      ∃ item, inner.shape = .list item true ∧ members.lacksEntries name = true := by
    obtain ⟨item, shape⟩ := Field.of_isDynamicList dynamic
    exact ⟨item, shape, lacks⟩
  obtain here | missing := List.mem_append.mp listed
  · obtain ⟨old, there⟩ := Members.exists_of_mem_names here
    by_cases empty : inner.isDynamicList = true ∧ old = .list []
    · refine .inr (seeds empty.1 ((members.lacksEntries_iff name).mpr fun value same => ?_))
      rw [there, Option.some.injEq] at same
      exact same ▸ empty.2
    · exact .inl ⟨old, there, empty⟩
  · obtain ⟨dynamic, lacks⟩ := isDynamicList_of_mem_missingLists distinct declared missing
    exact .inr (seeds dynamic lacks)

/-- A list that is seeded holds no two members of one name anywhere. -/
theorem Field.isDistinct_templateList {item : Field} {dynamic : Bool}
    (fresh : field.isDistinct = true) (shape : field.shape = .list item dynamic) :
    (Value.list [item.templateEntry]).isDistinct = true := by
  rw [isDistinct_eq, shape] at fresh
  refine (Value.isDistinct_list _).mpr fun entry member => ?_
  rw [List.mem_singleton.mp member]
  exact ((item.startsTyped upheld_isOwn fresh).entry .template).isDistinct

/-- A value is opened in one way only. -/
theorem Value.Opens.eq_normalize (fresh : field.isDistinct = true) (maps : value.isDistinct = true)
    (opens : value.Opens field new) : new = field.normalize value := by
  induction opens with
  | number shape kind => exact (Field.normalize_number shape kind _).symm
  | scalar shape plain =>
      obtain same | ⟨kind, raw, text, _⟩ := Field.normalize_scalar _ shape _
      · exact same.symm
      · exact absurd text (plain kind raw)
  | @record field schema members others shape names undeclared _ _ held seeded =>
      rw [Field.isDistinct_eq, shape] at fresh
      obtain ⟨apart, inside⟩ := (isDistinct_record members).mp maps
      have namesToo := schema.names_normalize fresh members
      rw [Field.normalize_record shape]
      refine congrArg Value.record (Members.eq_of_get? (namesToo ▸ schema.nodup_missingLists fresh
        apart) (names.trans namesToo.symm) fun name listed => ?_)
      obtain ⟨new, found⟩ := Members.exists_of_mem_names (names.trans namesToo.symm ▸ listed)
      cases declared : schema.field? name with
      | none => rw [undeclared name declared, Schema.get?_normalize_of_undeclared declared]
      | some inner =>
          have own := Schema.isDistinct_of_field? fresh declared
          rw [found, Schema.get?_normalize fresh declared]
          obtain ⟨old, there, entries⟩ | ⟨item, outline, lacks⟩ :=
            Schema.held_or_seeded fresh declared (names ▸ Members.mem_names_of_get? found)
          · have same : Members.get? (inner.seed name members) name = some old := by
              rw [Field.get?_seed_of_held there entries]
            rw [same]
            exact congrArg some (held name inner old new declared there entries found own
              (inside _ (Members.mem_of_get? there)))
          · rw [Field.get?_seed_list outline, lacks]
            exact congrArg some (seeded name inner item new declared outline lacks found own
              (inner.isDistinct_templateList own outline))
  | @list field item dynamic entries others shape length _ ih =>
      rw [Field.normalize_list shape]
      rw [Field.isDistinct_eq, shape] at fresh
      have distinct := (isDistinct_list entries).mp maps
      refine congrArg Value.list (List.ext_getElem? fun position => ?_)
      rw [List.getElem?_map]
      cases there : entries[position]? with
      | none =>
          rw [List.getElem?_eq_none_iff, ← length, ← List.getElem?_eq_none_iff] at there
          exact there
      | some old =>
          have within : position < others.length :=
            length ▸ (List.getElem?_eq_some_iff.mp there).1
          rw [List.getElem?_eq_getElem within]
          exact congrArg some (ih position old _ there (List.getElem?_eq_getElem within) fresh
            (distinct old (List.mem_of_getElem? there)))
  | noRecord shape other => exact (Field.normalize_of_record? shape other).symm
  | noList shape other => exact (Field.normalize_of_list? shape other).symm

end Unique

section Again

variable {schema : Schema} {field : Field}

/-- Fields that find their lists filled and their values normalized leave a record as it is. -/
theorem Schema.normalizeMembers_eq_self {fields : List (String × Field)} {model : Record}
    (each : ∀ pair ∈ fields,
      ¬ (pair.2.isDynamicList = true ∧ model.lacksEntries pair.1 = true) ∧
      ∀ value, Members.get? model pair.1 = some value → pair.2.normalize value = value) :
    normalizeMembers fields model = model := by
  induction fields with
  | nil => rw [normalizeMembers]
  | cons pair rest ih =>
      obtain ⟨name, field⟩ := pair
      obtain ⟨⟨filled, normal⟩, others⟩ := List.forall_mem_cons.mp each
      have seeded : field.seed name model = model := by
        rw [Field.seed, if_neg]
        rwa [Bool.and_eq_true]
      have here : field.normalizeIn name model = model := by
        rw [Field.normalizeIn, seeded]
        split
        next value held => rw [normal value held, Members.set_of_get? held]
        next => rfl
      rw [normalizeMembers_cons, here, ih others]

/-- A list stays without entries, and nothing else becomes a list without entries. -/
theorem Field.normalize_eq_empty_iff (field : Field) (value : Value) :
    field.normalize value = .list [] ↔ value = .list [] := by
  cases shape : field.shape with
  | scalar rule =>
      obtain same | ⟨_, raw, rfl, read⟩ := normalize_scalar field shape value
      · rw [same]
      · simp [read]
  | composite below =>
      obtain other | ⟨members, rfl⟩ := value.record?_cases
      · rw [normalize_of_record? shape other]
      · rw [normalize_record shape]
        simp
  | list item dynamic =>
      obtain other | ⟨entries, rfl⟩ := value.list?_cases
      · rw [normalize_of_list? shape other]
      · rw [normalize_list shape]
        simp

/-- A dynamic list of a normalized record has entries. -/
theorem Schema.lacksEntries_normalize {name : String} {item : Field}
    (distinct : schema.isDistinct = true) (declared : schema.field? name = some field)
    (shape : field.shape = .list item true) (model : Record) :
    (schema.normalize model).lacksEntries name = false := by
  refine Bool.eq_false_iff.mpr fun lacks => ?_
  rw [Record.lacksEntries_iff, get?_normalize distinct declared,
    Field.get?_seed_list shape] at lacks
  cases missing : model.lacksEntries name with
  | true =>
      rw [missing] at lacks
      have empty := lacks _ rfl
      rw [Field.normalize_eq_empty_iff] at empty
      cases empty
  | false =>
      rw [missing, if_neg Bool.false_ne_true] at lacks
      refine Bool.eq_false_iff.mp missing ((model.lacksEntries_iff name).mpr fun value held => ?_)
      rw [held] at lacks
      exact (Field.normalize_eq_empty_iff field value).mp (lacks _ rfl)

/-- To normalize a record again changes nothing, if that is so for the values of its fields. -/
theorem Schema.normalize_normalize_of_fields (distinct : schema.isDistinct = true)
    (fields : ∀ pair ∈ schema.fields, ∀ value : Value,
      pair.2.normalize (pair.2.normalize value) = pair.2.normalize value) (model : Record) :
    schema.normalize (schema.normalize model) = schema.normalize model := by
  have each : ∀ pair ∈ schema.fields,
      ¬ (pair.2.isDynamicList = true ∧ (schema.normalize model).lacksEntries pair.1 = true) ∧
      ∀ value, Members.get? (schema.normalize model) pair.1 = some value →
        pair.2.normalize value = value := by
    rintro ⟨name, field⟩ member
    have declared : schema.field? name = some field :=
      Members.get?_of_mem (schema.isDistinct_iff.mp distinct).1 member
    constructor
    · rintro ⟨dynamic, lacks⟩
      obtain ⟨item, shape⟩ := Field.of_isDynamicList dynamic
      rw [lacksEntries_normalize distinct declared shape] at lacks
      cases lacks
    · intro value held
      rw [get?_normalize distinct declared] at held
      obtain ⟨start, _, rfl⟩ := Option.map_eq_some_iff.mp held
      exact fields _ member start
  rw [schema.normalize_eq (schema.normalize model), normalizeMembers_eq_self each]

/-- What is normalized stays as it is when it is normalized again. -/
theorem Schema.normalize_normalize (distinct : schema.isDistinct = true) (model : Record) :
    schema.normalize (schema.normalize model) = schema.normalize model := by
  refine (Schema.descent
    (fun schema => schema.isDistinct = true → ∀ model : Record,
      schema.normalize (schema.normalize model) = schema.normalize model)
    (fun field => field.isDistinct = true → ∀ value : Value,
      field.normalize (field.normalize value) = field.normalize value) ?_ ?_ ?_ ?_).1
      schema distinct model
  · intro schema each distinct
    have inside := (schema.isDistinct_iff.mp distinct).2
    exact normalize_normalize_of_fields distinct fun pair member => each pair member
      (inside pair member)
  · intro title readOnly rule _ value
    obtain same | ⟨_, raw, rfl, read⟩ := Field.normalize_scalar ⟨title, readOnly, _⟩ rfl value
    · rw [same, same]
    · -- a number is no text
      rw [read]
      obtain again | ⟨_, _, never, _⟩ := Field.normalize_scalar ⟨title, readOnly, _⟩ rfl
        (.number (Number.coerce raw))
      · exact again
      · cases never
  · intro title readOnly below inside distinct value
    obtain other | ⟨members, rfl⟩ := value.record?_cases
    · rw [Field.normalize_of_record? rfl other, Field.normalize_of_record? rfl other]
    · rw [Field.normalize_record rfl, Field.normalize_record rfl, inside distinct members]
  · intro title readOnly item dynamic inside distinct value
    obtain other | ⟨entries, rfl⟩ := value.list?_cases
    · rw [Field.normalize_of_list? rfl other, Field.normalize_of_list? rfl other]
    · rw [Field.normalize_list rfl, Field.normalize_list rfl, List.map_map]
      exact congrArg Value.list (List.map_congr_left fun entry _ => inside distinct entry)

end Again

namespace Record

/-- A document without double names is opened as a form in one way. Members keep their places and
dynamic lists that are missing come last. At every depth that declared records and lists lead to,
texts that stand for numbers are read and dynamic lists without entries get one, and all else stays
as it is read from the document. If no number is malformed, the form of the form's own document is
the form itself. -/
theorem ofResource_opens (schema : Schema) (members : List (String × Json))
    (distinct : schema.isDistinct = true) (maps : (Json.object members).isDistinct = true) :
    ∃ model form, Record.ofJson (.object members) = .ok model ∧
      ofResource schema (.object members) = .ok form ∧
      (∀ other, (Value.record model).Opens schema.whole other ↔ other = .record form) ∧
      ((Value.record form).isMarkless = true → ofResource schema form.toJson = .ok form) := by
  have read : Record.ofJson (.object members) = .ok (Value.ofMembers members) := rfl
  have fresh : schema.whole.isDistinct = true := distinct
  refine ⟨_, _, read, rfl, fun other => ⟨fun opens => ?_, ?_⟩, fun markless => ?_⟩
  · exact opens.eq_normalize fresh (isDistinct_ofJson maps read)
  · rintro rfl
    exact schema.whole.opens_normalize fresh _
  · rw [ofResource, ofJson_toJson markless]
    exact congrArg Except.ok (schema.normalize_normalize distinct _)

/-- An app with a number that comes as a text, without ports, and with a member of its own. -/
def webDocument : List (String × Json) :=
  [("name", .string "web"), ("cores", .string "2.9"), ("ports", .array []),
    ("labels", .object [("cores", .string "3")])]

/-- The form that the app is opened as, with the number that its text is read as. -/
def webForm (cores : Number) : Record :=
  [("name", .text "web"), ("cores", .number cores),
    ("ports", .list [.record [("port", .int 0), ("protocol", .text "")]]),
    ("labels", .record [("cores", .text "3")]),
    ("epafeatures", .list [.record [("key", .text ""), ("value", .text "")]])]

set_option maxRecDepth 4000 in
/-- The cores are read, the list of features that is missing gets an entry too, and the labels
stay. -/
theorem webDocument_opens :
    ofResource .app (.object webDocument) = .ok (webForm (.int 2)) ∧
      (∀ other, (Value.record (Value.ofMembers webDocument)).Opens Schema.app.whole other ↔
        other = .record (webForm (.int 2))) ∧
      ofResource .app (webForm (.int 2)).toJson = .ok (webForm (.int 2)) := by
  have truncated : Number.coerce "2.9" = .int 2 := by decide
  have read : ofResource .app (.object webDocument) = .ok (webForm (Number.coerce "2.9")) := rfl
  rw [truncated] at read
  obtain ⟨model, form, started, opened, only, again⟩ :=
    ofResource_opens .app webDocument (by decide) (by decide)
  cases started
  cases opened.symm.trans read
  exact ⟨read, only, again (by decide)⟩

end Record

end ResourceEditor
