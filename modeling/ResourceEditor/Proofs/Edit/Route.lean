import ResourceEditor.Edit.Resolve
/-
This file says where the routes of paths lead: one step after the other, each to an editable field.
-/

namespace ResourceEditor

theorem bind_eq_ok_iff {ε α β : Type} {first : Except ε α} {next : α → Except ε β} {result : β} :
    first >>= next = .ok result ↔ ∃ value, first = .ok value ∧ next value = .ok result := by
  cases first <;> simp [bind, Except.bind]

theorem bind_eq_error_iff {ε α β : Type} {first : Except ε α} {next : α → Except ε β} {error : ε} :
    first >>= next = .error error ↔
      first = .error error ∨ ∃ value, first = .ok value ∧ next value = .error error := by
  cases first <;> simp [bind, Except.bind]

theorem map_eq_ok_iff {ε α β : Type} {first : Except ε α} {change : α → β} {result : β} :
    first.map change = .ok result ↔ ∃ value, first = .ok value ∧ change value = result := by
  cases first <;> simp [Except.map]

theorem map_eq_error_iff {ε α β : Type} {first : Except ε α} {change : α → β} {error : ε} :
    first.map change = .error error ↔ first = .error error := by
  cases first <;> simp [Except.map]

/-- The field that a whole form is a value for. -/
def Schema.whole (schema : Schema) : Field := .composite schema.title schema

@[simp] theorem Schema.whole_shape (schema : Schema) : schema.whole.shape = .composite schema := rfl

@[simp] theorem Schema.whole_readOnly (schema : Schema) : schema.whole.readOnly = false := rfl

namespace Field

/-- One step from a field to an editable one right below it. -/
inductive Step (field : Field) : Segment → Field → Prop where
  | member {schema : Schema} {name : String} {next : Field}
      (shape : field.shape = .composite schema)
      (declared : schema.field? name = some next) (editable : next.readOnly = false) :
      Step field (.field name) next
  | entry {item : Field} {dynamic : Bool} {position : Nat}
      (shape : field.shape = .list item dynamic) (editable : item.readOnly = false) :
      Step field (.index position) item

/-- A route leads from a field, step by step, to the field at its end. -/
inductive Leads : Field → Route → Field → Prop where
  | here (field : Field) : Leads field [] field
  | step {field next leaf : Field} {segment : Segment} {rest : Route}
      (first : field.Step segment next) (others : Leads next rest leaf) :
      Leads field ((segment, next) :: rest) leaf

/-- A path goes from a field through editable fields to another one. -/
def Reaches (field : Field) (path : Path) (leaf : Field) : Prop :=
  ∃ route, field.Leads route leaf ∧ route.map Prod.fst = path

theorem Reaches.step {field next leaf : Field} {segment : Segment} {path : Path}
    (first : field.Step segment next) (others : next.Reaches path leaf) :
    field.Reaches (segment :: path) leaf := by
  obtain ⟨route, leads, rfl⟩ := others
  exact ⟨(segment, next) :: route, .step first leads, rfl⟩

theorem Step.unique {field next other : Field} {segment : Segment}
    (step : field.Step segment next) (again : field.Step segment other) : other = next := by
  cases step with
  | member shape declared =>
      cases again with
      | member same found =>
          rw [shape, Shape.composite.injEq] at same
          subst same
          exact Option.some.inj (found.symm.trans declared)
  | entry shape =>
      cases again with
      | entry same =>
          rw [shape, Shape.list.injEq] at same
          exact same.1.symm

theorem Step.scalar?_eq_none {field next : Field} {segment : Segment}
    (step : field.Step segment next) : field.scalar? = none := by
  cases step with
  | member shape => rw [scalar?, shape]
  | entry shape => rw [scalar?, shape]

theorem editable_ok {field next : Field} {path : Path} (free : field.editable path = .ok next) :
    next = field ∧ field.readOnly = false := by
  rw [editable] at free
  split at free
  next => cases free
  next writable =>
    cases free
    exact ⟨rfl, eq_false_of_ne_true writable⟩

end Field

theorem Schema.editableField_ok {schema : Schema} {path : Path} {name : String} {field : Field}
    (found : schema.editableField path name = .ok field) :
    schema.field? name = some field ∧ field.readOnly = false := by
  rw [Schema.editableField] at found
  cases declared : schema.field? name with
  | none =>
      rw [declared] at found
      cases found
  | some other =>
      rw [declared] at found
      obtain ⟨rfl, writable⟩ := Field.editable_ok found
      exact ⟨rfl, writable⟩

namespace Field

theorem step_of_descend {field next : Field} {path : Path} {segment : Segment}
    (descended : field.descend path segment = .ok next) : field.Step segment next := by
  cases segment with
  | field name =>
      rw [descend] at descended
      cases shape : field.shape with
      | composite schema =>
          rw [shape] at descended
          obtain ⟨declared, writable⟩ := Schema.editableField_ok descended
          exact .member shape declared writable
      | _ =>
          rw [shape] at descended
          cases descended
  | index position =>
      rw [descend] at descended
      cases shape : field.shape with
      | list item dynamic =>
          rw [shape] at descended
          obtain ⟨rfl, writable⟩ := editable_ok descended
          exact .entry shape writable
      | _ =>
          rw [shape] at descended
          cases descended

end Field

@[simp] theorem Route.leaf?_nil : Route.leaf? [] = none := rfl

@[simp] theorem Route.leaf?_cons (segment : Segment) (field : Field) (rest : Route) :
    Route.leaf? ((segment, field) :: rest) = some (rest.leaf?.getD field) := by
  rw [Route.leaf?, Route.leaf?, List.getLast?_cons]
  cases rest.getLast? <;> rfl

namespace Field

theorem leads_of_route {field : Field} {path rest : Path} {route : Route}
    (routed : field.route path rest = .ok route) :
    route.map Prod.fst = rest ∧ field.Leads route (route.leaf?.getD field) := by
  induction rest generalizing field path route with
  | nil =>
      cases routed
      exact ⟨rfl, .here field⟩
  | cons segment others ih =>
      rw [Field.route] at routed
      obtain ⟨next, descended, continued⟩ := bind_eq_ok_iff.mp routed
      obtain ⟨below, further, same⟩ := bind_eq_ok_iff.mp continued
      cases same
      obtain ⟨segments, leads⟩ := ih further
      rw [Route.leaf?_cons]
      exact ⟨congrArg (List.cons segment) segments, .step (step_of_descend descended) leads⟩

end Field

/-- The route of a path goes through the segments of the path and ends at its leaf. -/
theorem Schema.leads_of_route {schema : Schema} {path : Path} {route : Route}
    (routed : schema.route path = .ok route) :
    route.map Prod.fst = path ∧ route ≠ [] ∧
      ∃ leaf, route.leaf? = some leaf ∧ schema.whole.Leads route leaf := by
  match path, routed with
  | .field name :: rest, routed =>
      rw [Schema.route] at routed
      obtain ⟨field, found, continued⟩ := bind_eq_ok_iff.mp routed
      obtain ⟨below, further, same⟩ := bind_eq_ok_iff.mp continued
      cases same
      obtain ⟨declared, writable⟩ := Schema.editableField_ok found
      obtain ⟨segments, leads⟩ := Field.leads_of_route further
      refine ⟨congrArg (List.cons (Segment.field name)) segments, List.cons_ne_nil _ _, _,
        Route.leaf?_cons .., ?_⟩
      exact .step (.member rfl declared writable) leads

theorem Schema.leads_of_leaf? {schema : Schema} {path : Path} {route : Route} {leaf : Field}
    (routed : schema.route path = .ok route) (last : route.leaf? = some leaf) :
    route.map Prod.fst = path ∧ route ≠ [] ∧ schema.whole.Leads route leaf := by
  obtain ⟨segments, some, other, again, leads⟩ := leads_of_route routed
  rw [last, Option.some.injEq] at again
  exact ⟨segments, some, again ▸ leads⟩

namespace Field

/-- The last step of a route that has one. -/
theorem Leads.split_last {field leaf : Field} {route : Route} (leads : field.Leads route leaf)
    (some : route ≠ []) :
    ∃ front segment middle, route = front ++ [(segment, leaf)] ∧ field.Leads front middle ∧
      middle.Step segment leaf := by
  induction leads with
  | here => exact absurd rfl some
  | @step field next leaf segment rest first others ih =>
      cases others with
      | here => exact ⟨[], segment, field, rfl, .here field, first⟩
      | step second others =>
          obtain ⟨front, last, middle, same, below, final⟩ := ih (List.cons_ne_nil _ _)
          exact ⟨(segment, next) :: front, last, middle, congrArg (List.cons _) same,
            .step first below, final⟩

end Field

end ResourceEditor
