import ResourceEditor.Path.Basic
import ResourceEditor.Proofs.Edit.Route
import ResourceEditor.Proofs.Validation.Due
/-
This file says which values on the way of a route are looked at: all of them down to the last
record, and that record too unless it is a member in which nothing is filled in.
-/

namespace ResourceEditor

/-- What stands at a place. -/
def Place.value : Place → Value
  | .record _ members => .record members
  | .entry _ value => value

namespace Inspected

variable {form : Schema} {model : Record} {path : Path}

/-- A place has the value that the form holds there. -/
theorem at?_eq {place : Place} (inspected : Inspected form model path place) :
    (Value.record model).at? path = some place.value := by
  induction inspected with
  | form => exact Value.at?_nil _
  | part within declared editable shape held filled ih =>
      rw [Path.child, Value.at?_append, ih]
      simp [Place.value, held]
  | listed within declared editable shape held there ih =>
      rw [Path.entry, Path.child, List.append_assoc, Value.at?_append, ih]
      simp [Place.value, held, there]
  | nested within shape there ih =>
      rw [Path.entry, Value.at?_append, ih]
      simp [Place.value, there]
  | opened within shape ih => exact ih

theorem lastField?_of_entry {item : Field} {value : Value}
    (inspected : Inspected form model path (.entry item value)) : path.lastField? = none := by
  cases inspected with
  | listed => exact Path.lastField?_entry _ _
  | nested => exact Path.lastField?_entry _ _

/-- A record that is a member is looked at only when something in it is filled in. -/
theorem filled_of_lastField? {schema : Schema} {record : Record} {name : String}
    (inspected : Inspected form model path (.record schema record))
    (named : path.lastField? = some name) : (Value.record record).isEmpty = false := by
  cases inspected with
  | form => cases named
  | part within declared editable shape held filled => exact Value.isEmpty_record filled
  | opened within shape =>
      rw [within.lastField?_of_entry] at named
      cases named

end Inspected

/-- A violation at a name is one of a record that is looked at. -/
theorem Due.inspected {form : Schema} {model : Record} {violation : Violation} {name : String}
    (due : Due form model violation) (named : violation.path.lastField? = some name) :
    ∃ schema record, Inspected form model violation.path.dropLast (.record schema record) := by
  cases due with
  | required within => exact ⟨_, _, by simpa using within⟩
  | held within => exact ⟨_, _, by simpa using within⟩
  | order within => exact ⟨_, _, by simpa [OrderRule.violation] using within⟩
  | entry within =>
      rw [within.lastField?_of_entry] at named
      cases named

/-- A value that is looked at for a field: the form itself, a member of a record that is looked at,
or a list entry that is. -/
inductive Visible (form : Schema) (model : Record) : Path → Field → Value → Prop where
  | whole : Visible form model [] form.whole (.record model)
  | member {path : Path} {schema : Schema} {record : Record} {name : String} {field : Field}
      {value : Value} (within : Inspected form model path (.record schema record))
      (declared : (name, field) ∈ schema.fields) (editable : field.readOnly = false)
      (held : Members.get? record name = some value) :
      Visible form model (path.child name) field value
  | entry {path : Path} {item : Field} {value : Value}
      (inspected : Inspected form model path (.entry item value)) :
      Visible form model path item value

namespace Visible

variable {form : Schema} {model : Record} {path : Path} {field next : Field}
  {value below : Value}

/-- A record that is looked at for its field opens up, unless it is a blank member. -/
theorem inspected {schema : Schema} {members : Record}
    (visible : Visible form model path field (.record members))
    (shape : field.shape = .composite schema)
    (opens : path.lastField? = none ∨ (Value.record members).isEmpty = false) :
    Inspected form model path (.record schema members) := by
  cases visible with
  | whole =>
      cases shape
      exact .form
  | member within declared editable held =>
      obtain unnamed | filled := opens
      · simp at unnamed
      · exact .part within declared editable shape held
          ((Value.allEmpty_eq_false_iff members).mp filled)
  | entry inspected => exact .opened inspected shape

theorem step {segment : Segment} (visible : Visible form model path field value)
    (step : field.Step segment next) (there : value.step? segment = some below)
    (opens : path.lastField? = none ∨ value.isEmpty = false) :
    Visible form model (path ++ [segment]) next below := by
  cases step with
  | member shape declared editable =>
      obtain ⟨members, rfl, held⟩ := Value.record_of_step? there
      exact .member (visible.inspected shape opens) (Members.mem_of_get? declared) editable held
  | entry shape editable =>
      obtain ⟨entries, rfl, held⟩ := Value.list_of_step? there
      cases visible with
      | member within declared writable holds =>
          exact .entry (.listed within declared writable shape holds held)
      | entry inspected => exact .entry (.nested inspected shape held)

/-- On the way to a value that is filled in, everything is looked at. -/
theorem along {route : Route} {leaf : Field} (visible : Visible form model path field value)
    (leads : field.Leads route leaf) (there : value.at? (route.map Prod.fst) = some below)
    (filled : below.isEmpty = false) :
    Visible form model (path ++ route.map Prod.fst) leaf below := by
  induction leads generalizing path value with
  | here =>
      cases there
      simpa using visible
  | @step field next leaf segment rest first others ih =>
      have full : value.isEmpty = false := Value.isEmpty_of_at? there filled
      rw [List.map_cons, Value.at?_cons] at there
      obtain ⟨inner, one, remaining⟩ := Option.bind_eq_some_iff.mp there
      have onward := ih (visible.step first one (.inr full)) remaining
      simpa using onward

/-- What a route leads to is looked at, if the path does not end in a name or something is filled
in there. -/
theorem of_leads {route : Route} {leaf : Field} (leads : form.whole.Leads route leaf)
    (there : (Value.record model).at? (route.map Prod.fst) = some value)
    (opens : Path.lastField? (route.map Prod.fst) = none ∨ value.isEmpty = false) :
    Visible form model (route.map Prod.fst) leaf value := by
  obtain unnamed | full := opens
  · by_cases some : route = []
    · subst some
      cases leads
      cases there
      exact .whole
    · -- the list of an entry has that entry, and so it is filled in
      obtain ⟨front, segment, middle, rfl, first, last⟩ := leads.split_last some
      rw [List.map_append] at there unnamed ⊢
      rw [Value.at?_append] at there
      obtain ⟨list, before, after⟩ := Option.bind_eq_some_iff.mp there
      simp only [List.map_cons, List.map_nil, Value.at?_cons, Value.at?_nil] at after
      obtain ⟨entry, one, same⟩ := Option.bind_eq_some_iff.mp after
      cases same
      cases segment with
      | field name => simp [Path.lastField?] at unnamed
      | index position =>
          obtain ⟨entries, rfl, held⟩ := Value.list_of_step? one
          have full := Value.isEmpty_list held
          exact (Visible.whole.along first before full).step last one (.inr full)
  · exact Visible.whole.along leads there full

end Visible

end ResourceEditor
