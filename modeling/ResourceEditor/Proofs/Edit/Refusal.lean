import ResourceEditor.Proofs.Edit.Part
import ResourceEditor.Proofs.Edit.Update
/-
This file says when a scalar can be set, and what is wrong when it cannot: the first thing on the
path that the schema refuses, or else the first thing that the form does not have.
-/

namespace ResourceEditor

namespace Field

/-- Why the schema lets nobody go on from a field at a place by a segment. -/
inductive Refuses (field : Field) (place : Path) : Segment → EditError → Prop where
  | unknown {schema : Schema} {name : String} (shape : field.shape = .composite schema)
      (undeclared : schema.field? name = none) :
      Refuses field place (.field name) (.unknownField (place.child name))
  | lockedMember {schema : Schema} {name : String} {next : Field}
      (shape : field.shape = .composite schema) (declared : schema.field? name = some next)
      (locked : next.readOnly = true) :
      Refuses field place (.field name) (.readOnlyField (place.child name))
  | lockedEntry {item : Field} {dynamic : Bool} {position : Nat}
      (shape : field.shape = .list item dynamic) (locked : item.readOnly = true) :
      Refuses field place (.index position) (.readOnlyField (place.entry position))
  | nameInList {item : Field} {dynamic : Bool} {name : String}
      (shape : field.shape = .list item dynamic) :
      Refuses field place (.field name) (.typeMismatch place .positionBeforeName)
  | nameInScalar {rule : ScalarRule} {name : String} (shape : field.shape = .scalar rule) :
      Refuses field place (.field name) (.typeMismatch place .record)
  | positionOutsideList {position : Nat}
      (shape : ∀ item dynamic, field.shape ≠ .list item dynamic) :
      Refuses field place (.index position) (.typeMismatch place .list)

variable {field next : Field} {place : Path} {segment : Segment} {error : EditError}

theorem editable_eq_error_iff :
    field.editable place = .error error ↔
      field.readOnly = true ∧ error = .readOnlyField place := by
  rw [editable]
  cases field.readOnly <;> simp [eq_comm]

theorem descend_of_step (step : field.Step segment next) (place : Path) :
    field.descend place segment = .ok next := by
  cases step with
  | member shape declared editable =>
      simp [descend, shape, Schema.editableField, declared, Field.editable, editable]
  | entry shape editable => simp [descend, shape, Field.editable, editable]

theorem descend_eq_error_iff :
    field.descend place segment = .error error ↔ field.Refuses place segment error := by
  constructor
  · intro failed
    cases segment with
    | field name =>
        rw [descend] at failed
        cases shape : field.shape with
        | composite schema =>
            simp only [shape, Schema.editableField] at failed
            cases declared : schema.field? name with
            | none =>
                rw [declared] at failed
                cases failed
                exact .unknown shape declared
            | some next =>
                rw [declared] at failed
                obtain ⟨locked, rfl⟩ := editable_eq_error_iff.mp failed
                exact .lockedMember shape declared locked
        | list item dynamic =>
            rw [shape] at failed
            cases failed
            exact .nameInList shape
        | scalar rule =>
            rw [shape] at failed
            cases failed
            exact .nameInScalar shape
    | index position =>
        rw [descend] at failed
        cases shape : field.shape with
        | list item dynamic =>
            rw [shape] at failed
            obtain ⟨locked, rfl⟩ := editable_eq_error_iff.mp failed
            exact .lockedEntry shape locked
        | _ =>
            rw [shape] at failed
            cases failed
            exact .positionOutsideList fun item dynamic same => by simp [shape] at same
  · intro refuses
    cases refuses with
    | unknown shape undeclared => simp [descend, shape, Schema.editableField, undeclared]
    | lockedMember shape declared locked =>
        simp [descend, shape, Schema.editableField, declared, Field.editable, locked]
    | lockedEntry shape locked => simp [descend, shape, Field.editable, locked]
    | nameInList shape => simp [descend, shape]
    | nameInScalar shape => simp [descend, shape]
    | positionOutsideList outside =>
        rw [descend]
        cases shape : field.shape with
        | list item dynamic => exact absurd shape (outside item dynamic)
        | _ => rfl

/-- A path below a field is refused at the first segment by which the schema lets nobody go on. -/
theorem route_eq_error_iff {path : Path} :
    field.route place path = .error error ↔
      ∃ front segment rest stop, path = front ++ segment :: rest ∧ field.Reaches front stop ∧
        stop.Refuses (place ++ front) segment error := by
  induction path generalizing field place with
  | nil =>
      rw [route]
      simp
  | cons head tail ih =>
      rw [route, bind_eq_error_iff]
      constructor
      · rintro (failed | ⟨next, descended, continued⟩)
        · refine ⟨[], head, tail, field, rfl, ⟨[], .here field, rfl⟩, ?_⟩
          rw [List.append_nil]
          exact descend_eq_error_iff.mp failed
        · obtain failed | ⟨_, _, never⟩ := bind_eq_error_iff.mp continued
          · obtain ⟨front, segment, rest, stop, rfl, reaches, refuses⟩ := ih.mp failed
            refine ⟨head :: front, segment, rest, stop, rfl,
              reaches.step (step_of_descend descended), ?_⟩
            rwa [List.append_assoc] at refuses
          · cases never
      · rintro ⟨front, segment, rest, stop, same, ⟨route, leads, rfl⟩, refuses⟩
        cases leads with
        | here =>
            cases same
            rw [List.map_nil, List.append_nil] at refuses
            exact .inl (descend_eq_error_iff.mpr refuses)
        | step first others =>
            cases same
            refine .inr ⟨_, descend_of_step first place, bind_eq_error_iff.mpr (.inl ?_)⟩
            refine ih.mpr ⟨_, segment, rest, stop, rfl, ⟨_, others, rfl⟩, ?_⟩
            rwa [List.append_assoc]

theorem route_of_leads {route : Route} {leaf : Field} (leads : field.Leads route leaf)
    (place : Path) : field.route place (route.map Prod.fst) = .ok route := by
  induction leads generalizing place with
  | here => rfl
  | step first others ih =>
      rw [List.map_cons, Field.route, descend_of_step first place]
      simp only [bind, Except.bind, ih]
      rfl

end Field

namespace Value

/-- One step of an edit from a value to what it meets there: an entry that the list has, or the
member of a record, where one that is missing counts as the blank value of its field. -/
inductive Enters : Value → Segment → Field → Value → Prop where
  | member (members : Record) (name : String) (field : Field) :
      Enters (.record members) (.field name) field
        ((Members.get? members name).getD field.blankEntry)
  | entry {entries : List Value} {position : Nat} {old : Value} (item : Field)
      (there : entries[position]? = some old) : Enters (.list entries) (.index position) item old

/-- Puts a value in the place of a step, where a step can be made. -/
def put : Value → Segment → Value → Value
  | .record members, .field name, below => .record (Members.set members name below)
  | .list entries, .index position, below => .list (entries.set position below)
  | value, _, _ => value

/-- What an edit meets at the end of a route. -/
inductive Meets : Value → Route → Value → Prop where
  | here (value : Value) : Meets value [] value
  | step {value below held : Value} {segment : Segment} {field : Field} {rest : Route}
      (first : value.Enters segment field below) (others : Meets below rest held) :
      Meets value ((segment, field) :: rest) held

/-- Why an edit cannot go on from a value at a place by a segment. -/
inductive Stops (place : Path) : Value → Segment → EditError → Prop where
  | noRecord {value : Value} {name : String} (shape : ∀ members, value ≠ .record members) :
      Stops place value (.field name) (.typeMismatch place .record)
  | noList {value : Value} {position : Nat} (shape : ∀ entries, value ≠ .list entries) :
      Stops place value (.index position) (.typeMismatch place .list)
  | tooShort {entries : List Value} {position : Nat} (short : entries.length ≤ position) :
      Stops place (.list entries) (.index position)
        (.indexOutOfRange place position entries.length)

variable {change : Value → Except EditError Value} {place : Path} {value below held : Value}
  {route rest : Route} {segment : Segment} {field : Field} {error : EditError}

theorem enters_or_stops (place : Path) (value : Value) (segment : Segment) (field : Field) :
    (∃ below, value.Enters segment field below) ∨ ∃ error, value.Stops place segment error := by
  cases segment with
  | field name =>
      cases value with
      | record members => exact .inl ⟨_, .member members name field⟩
      | _ => exact .inr ⟨_, .noRecord fun members => Value.noConfusion⟩
  | index position =>
      cases value with
      | list entries =>
          cases there : entries[position]? with
          | none => exact .inr ⟨_, .tooShort (List.getElem?_eq_none_iff.mp there)⟩
          | some old => exact .inl ⟨old, .entry field there⟩
      | _ => exact .inr ⟨_, .noList fun entries => Value.noConfusion⟩

theorem Enters.not_stops (enters : value.Enters segment field below) :
    ¬ value.Stops place segment error := by
  intro stops
  cases enters with
  | member members name =>
      cases stops with
      | noRecord shape => exact shape members rfl
  | entry item there =>
      cases stops with
      | noList shape => exact shape _ rfl
      | tooShort short =>
          rw [List.getElem?_eq_none short] at there
          cases there

theorem Enters.unique {other : Value} (enters : value.Enters segment field below)
    (again : value.Enters segment field other) : other = below := by
  cases enters with
  | member members name =>
      cases again
      rfl
  | entry item there =>
      cases again with
      | entry item here =>
          rw [there, Option.some.injEq] at here
          exact here.symm

theorem Meets.snoc (meets : value.Meets route below) (last : below.Enters segment field held) :
    value.Meets (route ++ [(segment, field)]) held := by
  induction meets with
  | here => exact .step last (.here held)
  | step first others ih => exact .step first (ih last)

theorem Meets.unique {other : Value} (meets : value.Meets route held)
    (again : value.Meets route other) : other = held := by
  induction meets with
  | here =>
      cases again
      rfl
  | step first others ih =>
      cases again with
      | step second further =>
          cases first.unique second
          exact ih further

theorem Meets.split (meets : value.Meets (route ++ rest) held) :
    ∃ below, value.Meets route below ∧ below.Meets rest held := by
  induction route generalizing value with
  | nil => exact ⟨value, .here value, meets⟩
  | cons step route ih =>
      cases meets with
      | step first others =>
          obtain ⟨below, before, after⟩ := ih others
          exact ⟨below, .step first before, after⟩

/-- A change goes on in what it enters, and puts what comes out there in its place. -/
theorem update_of_enters (enters : value.Enters segment field below)
    (change : Value → Except EditError Value) (place : Path) (rest : Route) :
    value.update change place ((segment, field) :: rest) =
      (below.update change (place ++ [segment]) rest).map (value.put segment) := by
  cases enters with
  | member members name =>
      rw [update, Record.memberOrBlank, Path.child]
      cases ((Members.get? members name).getD field.blankEntry).update change
        (place ++ [.field name]) rest <;> rfl
  | @entry entries position _ item there =>
      rw [update, there, Path.entry]
      dsimp only
      cases below.update change (place ++ [.index position]) rest <;> rfl

theorem update_of_stops (stops : value.Stops place segment error) :
    value.update change place ((segment, field) :: rest) = .error error := by
  cases stops with
  | noRecord shape =>
      cases value with
      | record members => exact absurd rfl (shape members)
      | _ => rfl
  | noList shape =>
      cases value with
      | list entries => exact absurd rfl (shape entries)
      | _ => rfl
  | tooShort short => rw [update, List.getElem?_eq_none short]

/-- A change that cannot fail by itself fails at the first segment by which it cannot go on. -/
theorem update_eq_error_iff (total : ∀ held, ∃ changed, change held = .ok changed) :
    value.update change place route = .error error ↔
      ∃ front segment field rest held, route = front ++ (segment, field) :: rest ∧
        value.Meets front held ∧ held.Stops (place ++ front.map Prod.fst) segment error := by
  induction route generalizing value place with
  | nil =>
      obtain ⟨changed, given⟩ := total value
      simp [update, given]
  | cons step rest ih =>
      obtain ⟨segment, field⟩ := step
      obtain ⟨below, enters⟩ | ⟨reason, stops⟩ := enters_or_stops place value segment field
      · rw [update_of_enters enters, map_eq_error_iff, ih]
        constructor
        · rintro ⟨front, last, leaf, others, held, rfl, meets, stops⟩
          refine ⟨(segment, field) :: front, last, leaf, others, held, rfl, .step enters meets, ?_⟩
          rwa [List.append_assoc] at stops
        · rintro ⟨front, last, leaf, others, held, split, meets, stops⟩
          cases meets with
          | here =>
              cases split
              rw [List.map_nil, List.append_nil] at stops
              exact absurd stops enters.not_stops
          | step first further =>
              cases split
              cases enters.unique first
              refine ⟨_, last, leaf, others, held, rfl, further, ?_⟩
              rwa [List.append_assoc]
      · constructor
        · intro failed
          rw [update_of_stops stops] at failed
          cases failed
          refine ⟨[], segment, field, rest, value, rfl, .here value, ?_⟩
          rwa [List.map_nil, List.append_nil]
        · rintro ⟨front, last, leaf, others, held, split, meets, further⟩
          cases meets with
          | here =>
              cases split
              rw [List.map_nil, List.append_nil] at further
              exact update_of_stops further
          | step first further =>
              cases split
              exact absurd stops first.not_stops

/-- A change that cannot fail by itself succeeds just where an edit gets to the end of the route. -/
theorem update_isOk_iff (total : ∀ held, ∃ changed, change held = .ok changed) :
    (∃ new, value.update change place route = .ok new) ↔ ∃ held, value.Meets route held := by
  induction route generalizing value place with
  | nil => exact ⟨fun _ => ⟨value, .here value⟩, fun _ => by rw [update]; exact total value⟩
  | cons step rest ih =>
      obtain ⟨segment, field⟩ := step
      obtain ⟨below, enters⟩ | ⟨reason, stops⟩ := enters_or_stops place value segment field
      · have inside : (∃ new, below.update change (place ++ [segment]) rest = .ok new) ↔
            ∃ held, below.Meets rest held := ih
        rw [update_of_enters enters]
        constructor
        · rintro ⟨new, done⟩
          obtain ⟨inner, updated, _⟩ := map_eq_ok_iff.mp done
          obtain ⟨held, meets⟩ := inside.mp ⟨inner, updated⟩
          exact ⟨held, .step enters meets⟩
        · rintro ⟨held, meets⟩
          cases meets with
          | step first further =>
              cases enters.unique first
              obtain ⟨inner, updated⟩ := inside.mpr ⟨held, further⟩
              exact ⟨_, map_eq_ok_iff.mpr ⟨inner, updated, rfl⟩⟩
      · rw [update_of_stops stops]
        constructor
        · rintro ⟨_, never⟩
          cases never
        · rintro ⟨held, meets⟩
          cases meets with
          | step first _ => exact absurd stops first.not_stops

end Value

theorem Field.Leads.leaf_eq {field leaf : Field} {route : Route} (leads : field.Leads route leaf) :
    route.leaf?.getD field = leaf := by
  induction leads with
  | here => rfl
  | step first others ih =>
      rw [Route.leaf?_cons, Option.getD_some]
      exact ih

namespace Schema

/-- The first thing on a path by which the schema lets nobody get to its end. -/
inductive Blocks (schema : Schema) : Path → EditError → Prop where
  | empty : Blocks schema [] (.invalidPath "" .empty)
  | position (position : Nat) (rest : Path) :
      Blocks schema (.index position :: rest)
        (.invalidPath (Path.render (.index position :: rest)) .startsWithPosition)
  | segment {name : String} {others front rest : Path} {segment : Segment} {stop : Field}
      {error : EditError} (split : .field name :: others = front ++ segment :: rest)
      (reaches : schema.whole.Reaches front stop) (refuses : stop.Refuses front segment error) :
      Blocks schema (.field name :: others) error

/-- The first thing on a path that the schema refuses to an edit of a scalar. -/
inductive Refuses (schema : Schema) (path : Path) : EditError → Prop where
  | blocks {error : EditError} (blocks : schema.Blocks path error) : Refuses schema path error
  | noScalar {leaf : Field} (some : path ≠ []) (reaches : schema.whole.Reaches path leaf)
      (shape : ∀ rule, leaf.shape ≠ .scalar rule) :
      Refuses schema path (.typeMismatch path .partwiseEdit)

variable {schema : Schema} {path : Path} {error : EditError}

/-- A path that starts with a name is followed from the field that the whole form is a value for. -/
theorem route_field (schema : Schema) (name : String) (rest : Path) :
    schema.route (.field name :: rest) = schema.whole.route [] (.field name :: rest) := rfl

theorem route_eq_error_iff : schema.route path = .error error ↔ schema.Blocks path error := by
  cases path with
  | nil =>
      constructor
      · intro same
        cases same
        exact .empty
      · intro blocks
        cases blocks
        rfl
  | cons head others =>
      cases head with
      | index position =>
          constructor
          · intro same
            cases same
            exact .position position others
          · intro blocks
            cases blocks
            rfl
      | field name =>
          rw [route_field, Field.route_eq_error_iff]
          constructor
          · rintro ⟨front, segment, rest, stop, split, reaches, refuses⟩
            exact .segment split reaches refuses
          · intro blocks
            cases blocks with
            | segment split reaches refuses => exact ⟨_, _, _, _, split, reaches, refuses⟩

theorem route_of_leads {route : Route} {leaf : Field} (leads : schema.whole.Leads route leaf)
    (some : route ≠ []) :
    schema.route (route.map Prod.fst) = .ok route ∧ route.leaf? = .some leaf := by
  have routed := Field.route_of_leads leads []
  have last := leads.leaf_eq
  cases leads with
  | here => exact absurd rfl some
  | step first others =>
      rw [Route.leaf?_cons] at last ⊢
      cases first with
      | member => exact ⟨routed, congrArg _ last⟩
      | entry shape => cases shape

/-- One path leads to one field along one route. -/
theorem leads_unique {route other : Route} {leaf last : Field}
    (leads : schema.whole.Leads route leaf) (some : route ≠ [])
    (again : schema.whole.Leads other last) (same : other.map Prod.fst = route.map Prod.fst) :
    other = route ∧ last = leaf := by
  have otherSome : other ≠ [] := by
    rintro rfl
    exact some (List.map_eq_nil_iff.mp same.symm)
  obtain ⟨routed, ends⟩ := route_of_leads leads some
  obtain ⟨routedToo, endsToo⟩ := route_of_leads again otherSome
  rw [same, routed, Except.ok.injEq] at routedToo
  subst routedToo
  exact ⟨rfl, Option.some.inj (endsToo.symm.trans ends)⟩

end Schema

namespace Record

/-- The first thing on the way of an edit that the form does not have. -/
def Misses (model : Record) (route : Route) (error : EditError) : Prop :=
  ∃ front segment field rest held, route = front ++ (segment, field) :: rest ∧
    (Value.record model).Meets front held ∧ held.Stops (front.map Prod.fst) segment error

variable {schema : Schema} {model : Record} {path : Path} {raw : String} {error : EditError}
  {route : Route} {leaf : Field} {rule : ScalarRule}

theorem setScalar_of_leads (leads : schema.whole.Leads route leaf) (some : route ≠ [])
    (shape : leaf.shape = .scalar rule) (model : Record) (raw : String) :
    (setScalar schema model (route.map Prod.fst) raw).map .record =
      (Value.record model).update (fun _ => .ok (rule.read raw)) [] route := by
  obtain ⟨routed, last⟩ := Schema.route_of_leads leads some
  rw [setScalar_eq model routed last shape, update_whole model leads some]

/-- What the schema refuses is refused for every form. -/
theorem setScalar_of_refuses (refuses : schema.Refuses path error) (model : Record)
    (raw : String) : setScalar schema model path raw = .error error := by
  rw [setScalar]
  cases refuses with
  | blocks blocks =>
      rw [Schema.route_eq_error_iff.mpr blocks]
      rfl
  | @noScalar leaf some reaches shape =>
      obtain ⟨route, leads, rfl⟩ := reaches
      obtain ⟨routed, last⟩ := Schema.route_of_leads leads (by simpa using some)
      rw [routed]
      cases kind : leaf.shape with
      | scalar rule => exact absurd kind (shape rule)
      | _ => simp [bind, Except.bind, last, Field.scalar?, kind]

/-- The schema does not refuse a path that leads to an editable scalar field. -/
theorem not_refuses_of_leads (leads : schema.whole.Leads route leaf) (some : route ≠ [])
    (shape : leaf.shape = .scalar rule) : ¬ schema.Refuses (route.map Prod.fst) error := by
  intro refuses
  cases refuses with
  | blocks blocks =>
      have routed := (Schema.route_of_leads leads some).1
      rw [Schema.route_eq_error_iff.mpr blocks] at routed
      cases routed
  | noScalar _ reaches different =>
      obtain ⟨other, again, same⟩ := reaches
      obtain ⟨-, rfl⟩ := Schema.leads_unique leads some again same
      exact different rule shape

/-- A path is refused by the schema, or it leads to an editable scalar field. -/
theorem refuses_or_leads (schema : Schema) (path : Path) :
    (∃ error, schema.Refuses path error) ∨
      ∃ route leaf rule, path = route.map Prod.fst ∧ route ≠ [] ∧
        schema.whole.Leads route leaf ∧ leaf.shape = .scalar rule := by
  cases routed : schema.route path with
  | error error => exact .inl ⟨error, .blocks (Schema.route_eq_error_iff.mp routed)⟩
  | ok route =>
      obtain ⟨rfl, some, leaf, last, leads⟩ := Schema.leads_of_route routed
      cases shape : leaf.shape with
      | scalar rule => exact .inr ⟨route, leaf, rule, rfl, some, leads, shape⟩
      | _ =>
          refine .inl ⟨_, .noScalar (by simpa using some) ⟨route, leads, rfl⟩ fun rule same => ?_⟩
          rw [shape] at same
          cases same

/-- Along a path that the schema does not refuse a scalar is set where the form has all that is on
the way. -/
theorem setScalar_isOk_iff (leads : schema.whole.Leads route leaf) (some : route ≠ [])
    (shape : leaf.shape = .scalar rule) :
    (∃ next, setScalar schema model (route.map Prod.fst) raw = .ok next) ↔
      ∃ held, (Value.record model).Meets route held := by
  have updates : (∃ new, (Value.record model).update (fun _ => .ok (rule.read raw)) [] route =
      .ok new) ↔ ∃ held, (Value.record model).Meets route held :=
    Value.update_isOk_iff fun _ => ⟨_, rfl⟩
  rw [← updates, ← setScalar_of_leads leads some shape model raw]
  constructor
  · rintro ⟨next, done⟩
    exact ⟨.record next, map_eq_ok_iff.mpr ⟨next, done, rfl⟩⟩
  · rintro ⟨new, done⟩
    obtain ⟨next, set, _⟩ := map_eq_ok_iff.mp done
    exact ⟨next, set⟩

theorem setScalar_eq_error_iff (leads : schema.whole.Leads route leaf) (some : route ≠ [])
    (shape : leaf.shape = .scalar rule) :
    setScalar schema model (route.map Prod.fst) raw = .error error ↔ model.Misses route error := by
  have whole : (setScalar schema model (route.map Prod.fst) raw).map Value.record = .error error ↔
      setScalar schema model (route.map Prod.fst) raw = .error error := map_eq_error_iff
  rw [← whole, setScalar_of_leads leads some shape model raw,
    Value.update_eq_error_iff fun _ => ⟨_, rfl⟩]
  rfl

/-- A scalar is set just when the path leads from the form, by declared names and positions of
lists, through nothing read-only to a scalar field, and the form has all that the path goes through.
Otherwise the error is the first thing on the path that the schema refuses, or, if it refuses
nothing, the first thing that the form does not have. -/
theorem setScalar_outcome (schema : Schema) (model : Record) (path : Path) (raw : String) :
    ((∃ next, setScalar schema model path raw = .ok next) ↔
      ∃ route leaf rule held, path = route.map Prod.fst ∧ route ≠ [] ∧
        schema.whole.Leads route leaf ∧ leaf.shape = .scalar rule ∧
        (Value.record model).Meets route held) ∧
    ∀ error, setScalar schema model path raw = .error error ↔
      schema.Refuses path error ∨
      (∀ other, ¬ schema.Refuses path other) ∧
        ∃ route leaf, path = route.map Prod.fst ∧ schema.whole.Leads route leaf ∧
          model.Misses route error := by
  obtain ⟨reason, refuses⟩ | ⟨route, leaf, rule, rfl, some, leads, shape⟩ :=
    refuses_or_leads schema path
  · have failed := setScalar_of_refuses refuses model raw
    rw [failed]
    refine ⟨⟨fun ⟨_, never⟩ => (nomatch never), ?_⟩, fun error => ⟨fun same => ?_, ?_⟩⟩
    · rintro ⟨route, leaf, rule, held, rfl, some, leads, shape, _⟩
      exact absurd refuses (not_refuses_of_leads leads some shape)
    · cases same
      exact .inl refuses
    · rintro (others | ⟨free, _⟩)
      · rw [← failed, setScalar_of_refuses others model raw]
      · exact absurd refuses (free reason)
  · have free (error : EditError) : ¬ schema.Refuses (route.map Prod.fst) error :=
      not_refuses_of_leads leads some shape
    refine ⟨(setScalar_isOk_iff leads some shape).trans ⟨?_, ?_⟩, fun error =>
      (setScalar_eq_error_iff leads some shape).trans ⟨?_, ?_⟩⟩
    · rintro ⟨held, meets⟩
      exact ⟨route, leaf, rule, held, rfl, some, leads, shape, meets⟩
    · rintro ⟨other, _, _, held, same, _, again, _, meets⟩
      obtain ⟨rfl, -⟩ := Schema.leads_unique leads some again same.symm
      exact ⟨held, meets⟩
    · intro misses
      exact .inr ⟨free, route, leaf, rfl, leads, misses⟩
    · rintro (refuses | ⟨_, other, _, same, again, misses⟩)
      · exact absurd refuses (free error)
      · obtain ⟨rfl, -⟩ := Schema.leads_unique leads some again same.symm
        exact misses

end Record

end ResourceEditor
