import ResourceEditor.Proofs.Edit.Normalization
import ResourceEditor.Proofs.Json.Exactness
import ResourceEditor.Proofs.Value.Survival
/-
This file says where the values of a resource are found in its form: everything stays at its path,
as the field there normalizes it. So what is not edited is carried over from the document that a
form was read from to the document that it is sent as.
-/

namespace ResourceEditor

namespace Field

/-- The field one step down, read-only or not. -/
def next? (field : Field) : Segment → Option Field
  | .field name => field.nested?.bind fun schema => schema.field? name
  | .index _ => field.item?

/-- The field that a path leads to, if every field on the way is declared. -/
def below? (field : Field) : Path → Option Field
  | [] => some field
  | segment :: rest => (field.next? segment).bind fun next => next.below? rest

/-- What a form holds at a path for a value that a resource has there. -/
def arrival (field : Field) (path : Path) (held : Value) : Value :=
  match field.below? path with
  | some leaf => leaf.normalize held
  | none => held

variable {field next : Field} {value below held : Value} {segment : Segment} {path : Path}

/-- Only a list that has no entries is replaced by a seed. -/
theorem get?_seed_cases {name : String} {model : Record}
    (found : Members.get? model name = some value) :
    Members.get? (field.seed name model) name = some value ∨
      value = .list [] ∧ ∃ entries,
        Members.get? (field.seed name model) name = some (.list entries) := by
  cases dynamic : field.isDynamicList with
  | false =>
      left
      rw [get?_seed, dynamic]
      exact found
  | true =>
      obtain ⟨item, shape⟩ := of_isDynamicList dynamic
      rw [get?_seed_list shape, Record.lacksEntries, found]
      cases value with
      | list entries =>
          cases entries with
          | nil => exact .inr ⟨rfl, _, rfl⟩
          | cons entry rest => exact .inl rfl
      | _ => exact .inl rfl

/-- A list is normalized to a list of as many entries. -/
theorem normalize_list_cases (field : Field) (entries : List Value) :
    ∃ others, field.normalize (.list entries) = .list others ∧ others.length = entries.length := by
  obtain ⟨title, readOnly, shape⟩ := field
  cases shape with
  | scalar rule => exact ⟨entries, normalize_of_scalar title readOnly rule rfl, rfl⟩
  | composite schema => exact ⟨entries, rfl, rfl⟩
  | list item dynamic => exact ⟨_, normalize_list rfl entries, List.length_map _⟩

theorem arrival_list (field : Field) (path : Path) (entries : List Value) :
    ∃ others, field.arrival path (.list entries) = .list others ∧
      others.length = entries.length := by
  rw [arrival]
  cases field.below? path with
  | none => exact ⟨entries, rfl, rfl⟩
  | some leaf => exact leaf.normalize_list_cases entries

/-- Entries in the place of an empty list do no harm. -/
theorem survives_normalize_list (field : Field) (entries : List Value) :
    (field.normalize (.list [])).Survives (field.normalize (.list entries)) := by
  obtain ⟨none, same, length⟩ := field.normalize_list_cases []
  obtain ⟨others, again, _⟩ := field.normalize_list_cases entries
  rw [same, again]
  exact ⟨others, rfl, by rw [length]; exact Nat.zero_le _⟩

/-- Where no field is declared, a value is left alone. -/
theorem step?_normalize_of_undeclared (undeclared : field.next? segment = none)
    (there : value.step? segment = some below) :
    (field.normalize value).step? segment = some below := by
  obtain ⟨title, readOnly, shape⟩ := field
  cases segment with
  | field name =>
      obtain ⟨members, rfl, found⟩ := Value.record_of_step? there
      cases shape with
      | scalar rule => rwa [normalize_of_scalar title readOnly rule rfl]
      | composite schema =>
          exact (Schema.get?_normalize_of_undeclared undeclared members).trans found
      | list item dynamic => exact there
  | index position =>
      obtain ⟨entries, rfl, found⟩ := Value.list_of_step? there
      cases shape with
      | scalar rule => rwa [normalize_of_scalar title readOnly rule rfl]
      | composite schema => exact there
      | list item dynamic => cases undeclared

/-- A declared field normalizes what is there for it, unless that is a list without entries. -/
theorem step?_normalize (distinct : field.isDistinct = true)
    (declared : field.next? segment = some next) (there : value.step? segment = some below) :
    (field.normalize value).step? segment = some (next.normalize below) ∨
      below = .list [] ∧ ∃ entries,
        (field.normalize value).step? segment = some (next.normalize (.list entries)) := by
  obtain ⟨title, readOnly, shape⟩ := field
  cases segment with
  | field name =>
      obtain ⟨members, rfl, found⟩ := Value.record_of_step? there
      cases shape with
      | composite schema =>
          have normalized := Schema.get?_normalize distinct declared members
          obtain same | ⟨empty, entries, seeded⟩ := next.get?_seed_cases found
          · rw [same] at normalized
            exact .inl normalized
          · rw [seeded] at normalized
            exact .inr ⟨empty, entries, normalized⟩
      | _ => cases declared
  | index position =>
      obtain ⟨entries, rfl, found⟩ := Value.list_of_step? there
      cases shape with
      | list item dynamic =>
          cases declared
          left
          rw [normalize_list rfl, Value.step?_list, List.getElem?_map, found]
          rfl
      | _ => cases declared

theorem isDistinct_of_next? (distinct : field.isDistinct = true)
    (declared : field.next? segment = some next) : next.isDistinct = true := by
  obtain ⟨title, readOnly, shape⟩ := field
  cases segment with
  | field name =>
      cases shape with
      | composite schema => exact Schema.isDistinct_of_field? distinct declared
      | _ => cases declared
  | index position =>
      cases shape with
      | list item dynamic =>
          cases declared
          exact distinct
      | _ => cases declared

/-- What a resource has at a path, its form has there as the field of the path normalizes it. -/
theorem at?_normalize (distinct : field.isDistinct = true) (there : value.at? path = some held) :
    ∃ kept, (field.normalize value).at? path = some kept ∧
      (field.arrival path held).Survives kept := by
  induction path generalizing field value with
  | nil =>
      cases there
      exact ⟨field.normalize held, Value.at?_nil _, .refl _⟩
  | cons segment rest ih =>
      rw [Value.at?_cons] at there
      obtain ⟨below, first, others⟩ := Option.bind_eq_some_iff.mp there
      rw [arrival, below?, Value.at?_cons]
      cases declared : field.next? segment with
      | none =>
          rw [step?_normalize_of_undeclared declared first]
          exact ⟨held, others, .refl held⟩
      | some next =>
          obtain same | ⟨rfl, entries, seeded⟩ := step?_normalize distinct declared first
          · rw [same]
            exact ih (isDistinct_of_next? distinct declared) others
          · -- there is nothing in an empty list, so the path ends here
            rw [seeded]
            cases rest with
            | nil =>
                cases others
                exact ⟨_, Value.at?_nil _, next.survives_normalize_list entries⟩
            | cons segment rest => cases segment <;> cases others

end Field

/-- A scalar that is filled in: text that is not empty, a number or a truth value. -/
def Json.isFilled : Json → Bool
  | .string text => !text.isEmpty
  | .number _ => true
  | .bool _ => true
  | _ => false

/-- What a scalar arrives as in a field. A text in a field for numbers arrives as the number that it
writes out. Of a text that writes out none, nothing is said. -/
def Field.arrives (field : Field) (scalar : Json) : Option Json :=
  match field.scalar?.map ScalarRule.kind, scalar with
  | some .number, .string raw => (Number.coerce raw).int?.map fun value => .int value.toInt
  | _, scalar => some scalar

/-- What a scalar at a path arrives as, whether a field is declared there or not. -/
def Schema.arrives (schema : Schema) (path : Path) (scalar : Json) : Option Json :=
  match schema.whole.below? path with
  | some field => field.arrives scalar
  | none => some scalar

/-- A document is carried over to another one as far as it is spared: the scalars that are filled in
arrive at their paths, and no array gets shorter. -/
structure Schema.Carries (schema : Schema) (spared : Path → Prop) (old new : Json) : Prop where
  scalars : ∀ path scalar arrived, spared path → old.at? path = some scalar →
    scalar.isFilled = true → schema.arrives path scalar = some arrived →
    new.at? path = some arrived
  arrays : ∀ path elements, spared path → old.at? path = some (.array elements) →
    ∃ others, new.at? path = some (.array others) ∧ elements.length ≤ others.length

theorem Number.eq_of_int? {number : Number} {value : Int64} (whole : number.int? = some value) :
    number = .int value := by
  cases number with
  | int other => exact congrArg Number.int (Option.some.inj whole)
  | notANumber => cases whole

namespace Value

/-- A value is the scalar that a document has, and it is filled in. -/
structure Shows (value : Value) (scalar : Json) : Prop where
  isScalar : value.isScalar = true
  filled : value.isEmpty = false
  same : value.toJson = scalar

theorem shows_int (value : Int64) : (number (.int value)).Shows (.int value.toInt) :=
  ⟨rfl, rfl, rfl⟩

/-- A scalar is read as it is. -/
theorem exists_shows {scalar : Json} (lossless : scalar.isExact = true)
    (filled : scalar.isFilled = true) : ∃ held, ofJson scalar = some held ∧ held.Shows scalar := by
  cases scalar with
  | bool flag => exact ⟨_, rfl, rfl, rfl, rfl⟩
  | string text =>
      rw [Json.isFilled, Bool.not_eq_true'] at filled
      exact ⟨_, rfl, rfl, filled, rfl⟩
  | number number =>
      cases number with
      | integer value =>
          rw [Json.isExact, decide_eq_true_eq] at lossless
          have read : ofJson (.number (.integer value)) =
              some (.number (.int (Int64.ofInt value))) := by
            rw [ofJson, Number.ofJson, Number.ofInt, if_pos lossless]
          refine ⟨_, read, rfl, rfl, ?_⟩
          rw [toJson, Int64.toInt_ofInt_of_le lossless.1 lossless.2, Json.int]
      | float value => cases lossless
  | _ => cases filled

/-- A field normalizes a scalar to what it arrives as. -/
theorem Shows.normalize {value : Value} {scalar arrived : Json} (shows : value.Shows scalar)
    (field : Field) (arrives : field.arrives scalar = some arrived) :
    (field.normalize value).Shows arrived := by
  obtain ⟨isScalar, filled, rfl⟩ := shows
  obtain ⟨title, readOnly, shape⟩ := field
  cases shape with
  | scalar rule =>
      obtain ⟨kind, minimum, maximum, pattern, allowed, default⟩ := rule
      cases kind with
      | number =>
          cases value with
          | text raw =>
              obtain ⟨integer, coerced, rfl⟩ := Option.map_eq_some_iff.mp arrives
              show (Value.number (Number.coerce raw)).Shows _
              rw [Number.eq_of_int? coerced]
              exact shows_int integer
          | number number =>
              cases number with
              | int integer =>
                  cases arrives
                  exact shows_int integer
              | notANumber => cases filled
          | bool flag =>
              cases arrives
              exact ⟨rfl, rfl, rfl⟩
          | _ => cases isScalar
      | _ =>
          cases arrives
          exact ⟨isScalar, filled, rfl⟩
  | _ =>
      cases arrives
      rw [Field.normalize_of_isScalar rfl isScalar]
      exact ⟨isScalar, filled, rfl⟩

theorem Shows.arrival {value : Value} {scalar arrived : Json} {schema : Schema} {path : Path}
    (shows : value.Shows scalar) (arrives : schema.arrives path scalar = some arrived) :
    (schema.whole.arrival path value).Shows arrived := by
  rw [Schema.arrives] at arrives
  rw [Field.arrival]
  generalize schema.whole.below? path = leaf at arrives ⊢
  cases leaf with
  | none =>
      cases arrives
      exact shows
  | some field => exact shows.normalize field arrives

end Value

section Form

variable {schema : Schema} {members : List (String × Json)} {model : Record}
  {spared : Path → Prop} {path : Path}

/-- What a document has at a spared path survives in every form that was made from the form of the
document. -/
theorem Schema.at?_of_spares (distinct : schema.isDistinct = true)
    (lossless : (Json.object members).isExact = true)
    (spares : (Value.record (schema.normalize (Value.ofMembers members))).Spares spared
      (.record model)) (free : spared path) {json : Json} {held : Value}
    (there : (Json.object members).at? path = some json) (read : Value.ofJson json = some held) :
    ∃ kept, (Value.record model).at? path = some kept ∧
      (schema.whole.arrival path held).Survives kept := by
  have document : Value.ofJson (.object members) = some (.record (Value.ofMembers members)) := rfl
  -- what is read, then normalized, then edited stays at its path each time
  have found := Value.at?_ofJson lossless document there read
  have apart : schema.whole.isDistinct = true := distinct
  obtain ⟨first, arrived, survives⟩ := Field.at?_normalize apart found
  obtain ⟨kept, reached, further⟩ := spares path free first arrived
  exact ⟨kept, reached, survives.trans further⟩

theorem Record.at?_toJson_pruned (model : Record) (path : Path) :
    (Record.toJson model.pruned).at? path =
      ((Value.record model).pruneEntry.at? path).map Value.toJson := by
  rw [← Value.at?_toJson, Value.pruneEntry_record]
  rfl

/-- What a form spares of a document is carried over to the document that the form is sent as. -/
theorem Schema.carries_of_spares (distinct : schema.isDistinct = true)
    (lossless : (Json.object members).isExact = true)
    (spares : (Value.record (schema.normalize (Value.ofMembers members))).Spares spared
      (.record model)) : schema.Carries spared (.object members) (Record.toJson model.pruned) where
  scalars := by
    intro path scalar arrived free there filled arrives
    obtain ⟨held, read, shows⟩ := Value.exists_shows (Json.isExact_of_at? lossless there) filled
    obtain ⟨kept, reached, survives⟩ := at?_of_spares distinct lossless spares free there read
    obtain ⟨isScalar, filled, same⟩ := shows.arrival arrives
    rw [(Value.survives_iff_of_isScalar isScalar).mp survives] at reached
    rw [Record.at?_toJson_pruned, Value.at?_pruneEntry_of_scalar reached isScalar filled,
      Option.map_some, same]
  arrays := by
    intro path elements free there
    obtain ⟨kept, reached, survives⟩ := at?_of_spares distinct lossless spares free there rfl
    obtain ⟨entries, same, length⟩ :=
      schema.whole.arrival_list path (Value.ofElements elements)
    rw [same] at survives
    obtain ⟨others, rfl, longer⟩ := survives
    refine ⟨(others.map Value.pruneEntry).map Value.toJson, ?_, ?_⟩
    · rw [Record.at?_toJson_pruned, Value.at?_pruneEntry_of_list reached, Option.map_some,
        Value.toJson, Value.toElements_eq_map]
    · rw [List.length_map, List.length_map, ← Value.length_ofElements
        (Json.isExact_of_at? lossless there), ← length]
      exact longer

end Form

end ResourceEditor
