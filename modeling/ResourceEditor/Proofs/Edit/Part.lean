import ResourceEditor.Edit.Basic
import ResourceEditor.Proofs.Edit.Update
/-
This file says what an edit of one place does: the schema refuses it whatever the form holds, or it
changes the value at the end of a route.
-/

namespace ResourceEditor

/-- An edit of one place of a form. -/
inductive Part where
  | set (path : Path) (raw : String)
  | append (list : Path)
  | appendWith (list : Path) (entry : Value)
  | reset (list : Path)

namespace Part

def path : Part → Path
  | .set path _ => path
  | .append list => list
  | .appendWith list _ => list
  | .reset list => list

def apply (schema : Schema) (model : Record) : Part → Except EditError Record
  | .set path raw => Record.setScalar schema model path raw
  | .append list => Record.append schema model list
  | .appendWith list entry => Record.appendWith schema model list entry
  | .reset list => Record.resetList schema model list

/-- What an edit makes of the value of the field at the end of its path. -/
inductive Change : Part → Field → (Value → Except EditError Value) → Prop where
  | set {path : Path} {raw : String} {leaf : Field} {rule : ScalarRule}
      (shape : leaf.shape = .scalar rule) :
      Change (.set path raw) leaf fun _ => .ok (rule.read raw)
  | append {list : Path} {leaf item : Field} {dynamic : Bool} {entry : Value}
      (shape : leaf.shape = .list item dynamic) (grows : leaf.nextEntry? = some entry) :
      Change (.append list) leaf (Record.push list entry)
  | appendWith {list : Path} {leaf item : Field} {dynamic : Bool} {entry : Value}
      (shape : leaf.shape = .list item dynamic) (fits : item.hasShapeOf entry = true) :
      Change (.appendWith list entry) leaf (Record.push list entry)
  | reset {list : Path} {leaf item : Field} {dynamic : Bool}
      (shape : leaf.shape = .list item dynamic) :
      Change (.reset list) leaf fun _ => .ok (.list leaf.nextEntry?.toList)

end Part

namespace Record

theorem listRoute_ok {schema : Schema} {path : Path} {route : Route} {field : Field} :
    listRoute schema path = .ok (route, field) ↔
      schema.route path = .ok route ∧ route.leaf? = some field ∧
        ∃ item dynamic, field.shape = .list item dynamic := by
  have isList (field : Field) :
      (∃ item, field.item? = some item) ↔ ∃ item dynamic, field.shape = .list item dynamic := by
    rw [Field.item?]
    cases field.shape <;> simp
  rw [listRoute, bind_eq_ok_iff]
  constructor
  · rintro ⟨found, routed, listed⟩
    cases leaf : found.leaf? with
    | none => simp [leaf] at listed
    | some other =>
        cases item : other.item? with
        | none => simp [leaf, item] at listed
        | some inner =>
            simp only [leaf, item, pure, Except.pure, Except.ok.injEq, Prod.mk.injEq] at listed
            obtain ⟨rfl, rfl⟩ := listed
            exact ⟨routed, leaf, (isList other).mp ⟨inner, item⟩⟩
  · rintro ⟨routed, leaf, shape⟩
    obtain ⟨inner, item⟩ := (isList field).mpr shape
    exact ⟨route, routed, by simp [leaf, item, pure, Except.pure]⟩

end Record

namespace Field

theorem hasShapeOf_startEntry (item : Field) (start : Start) :
    item.hasShapeOf (item.startEntry start) = true := by
  obtain ⟨title, readOnly, shape⟩ := item
  cases shape with
  | scalar rule =>
      obtain ⟨kind, minimum, maximum, pattern, allowed, default⟩ := rule
      cases kind <;> rfl
  | composite schema => rfl
  | list inner dynamic => rfl

/-- A list grows by a start entry of its item. -/
theorem nextEntry?_eq {field item : Field} {dynamic : Bool}
    (shape : field.shape = .list item dynamic) :
    ∃ start, field.nextEntry? = some (item.startEntry start) := by
  unfold nextEntry?
  rw [shape]
  cases dynamic with
  | false => exact ⟨.blank, rfl⟩
  | true => exact ⟨.template, rfl⟩

end Field

namespace Record

variable {schema : Schema} {path : Path} {route : Route} {field item : Field} {dynamic : Bool}

theorem setScalar_eq (model : Record) {raw : String} {rule : ScalarRule}
    (routed : schema.route path = .ok route) (last : route.leaf? = some field)
    (shape : field.shape = .scalar rule) :
    setScalar schema model path raw = model.update (fun _ => .ok (rule.read raw)) route := by
  rw [setScalar, routed]
  simp [bind, Except.bind, last, Field.scalar?, shape]

/-- What is set is found at the end of the path. -/
theorem at?_of_setScalar {model next : Record} {raw : String} {rule : ScalarRule}
    (routed : schema.route path = .ok route) (last : route.leaf? = some field)
    (shape : field.shape = .scalar rule) (set : setScalar schema model path raw = .ok next) :
    (Value.record next).at? path = some (rule.read raw) := by
  obtain ⟨segments, some, leads⟩ := Schema.leads_of_leaf? routed last
  have updated := (setScalar_eq model routed last shape).symm.trans set
  obtain ⟨_, changed, read, there⟩ := Value.at?_of_update (update_ok leads some updated)
  cases read
  rw [← segments]
  exact there

theorem appendWith_eq (model : Record) {entry : Value}
    (listed : listRoute schema path = .ok (route, field))
    (shape : field.shape = .list item dynamic) :
    appendWith schema model path entry =
      if item.hasShapeOf entry then model.update (push path entry) route
      else .error (.typeMismatch (path.entry 0) (.entryLike item.title)) := by
  rw [appendWith, listed]
  simp only [bind, Except.bind, Field.item?, shape]

/-- The schema's next entry is never refused for its shape. -/
theorem append_eq (model : Record) {entry : Value}
    (listed : listRoute schema path = .ok (route, field)) (shape : field.shape = .list item dynamic)
    (grows : field.nextEntry? = some entry) :
    append schema model path = model.update (push path entry) route := by
  obtain ⟨start, next⟩ := Field.nextEntry?_eq shape
  rw [grows, Option.some.injEq] at next
  rw [append, listed]
  simp only [bind, Except.bind, grows]
  rw [appendWith_eq model listed shape, next, Field.hasShapeOf_startEntry, if_pos rfl]

end Record

namespace Part

/-- The schema refuses the edit, whatever the form holds. -/
def IsRefused (schema : Schema) (part : Part) : Prop :=
  ∃ error, ∀ model, part.apply schema model = .error error

/-- The edit is a change along the route of its path. -/
def IsChange (schema : Schema) (part : Part) : Prop :=
  ∃ route leaf change, schema.route part.path = .ok route ∧ route.leaf? = some leaf ∧
    part.Change leaf change ∧ ∀ model, part.apply schema model = model.update change route

theorem set_refused_or_changes (schema : Schema) (path : Path) (raw : String) :
    (set path raw).IsRefused schema ∨ (set path raw).IsChange schema := by
  cases routed : schema.route path with
  | error error =>
      left
      refine ⟨error, fun model => ?_⟩
      rw [apply, Record.setScalar, routed]
      rfl
  | ok route =>
      obtain ⟨_, _, leaf, last, _⟩ := Schema.leads_of_route routed
      cases shape : leaf.shape with
      | scalar rule =>
          right
          exact ⟨route, leaf, _, routed, last, .set shape,
            fun model => Record.setScalar_eq model routed last shape⟩
      | _ =>
          left
          refine ⟨.typeMismatch path .partwiseEdit, fun model => ?_⟩
          rw [apply, Record.setScalar, routed]
          simp [bind, Except.bind, last, Field.scalar?, shape]

/-- Where there is no list, every edit of a list is refused for the same reason. -/
theorem refused_of_listRoute {schema : Schema} {list : Path} {error : EditError}
    (missing : Record.listRoute schema list = .error error) :
    (append list).IsRefused schema ∧ (∀ entry, (appendWith list entry).IsRefused schema) ∧
      (reset list).IsRefused schema := by
  refine ⟨⟨error, fun model => ?_⟩, fun entry => ⟨error, fun model => ?_⟩,
    ⟨error, fun model => ?_⟩⟩
  · rw [apply, Record.append, missing]
    rfl
  · rw [apply, Record.appendWith, missing]
    rfl
  · rw [apply, Record.resetList, missing]
    rfl

/-- The schema refuses an edit of one place for every form, or the edit is a change along the route
of its path. -/
theorem refused_or_changes (schema : Schema) (part : Part) :
    part.IsRefused schema ∨ part.IsChange schema := by
  cases part with
  | set path raw => exact set_refused_or_changes schema path raw
  | append list =>
      cases listed : Record.listRoute schema list with
      | error error => exact .inl (refused_of_listRoute listed).1
      | ok found =>
          obtain ⟨route, leaf⟩ := found
          obtain ⟨routed, last, item, dynamic, shape⟩ := Record.listRoute_ok.mp listed
          obtain ⟨start, grows⟩ := Field.nextEntry?_eq shape
          exact .inr ⟨route, leaf, _, routed, last, .append shape grows,
            fun model => Record.append_eq model listed shape grows⟩
  | appendWith list entry =>
      cases listed : Record.listRoute schema list with
      | error error => exact .inl ((refused_of_listRoute listed).2.1 entry)
      | ok found =>
          obtain ⟨route, leaf⟩ := found
          obtain ⟨routed, last, item, dynamic, shape⟩ := Record.listRoute_ok.mp listed
          cases fits : item.hasShapeOf entry with
          | false =>
              left
              refine ⟨.typeMismatch (list.entry 0) (.entryLike item.title), fun model => ?_⟩
              rw [apply, Record.appendWith_eq model listed shape, fits]
              rfl
          | true =>
              right
              refine ⟨route, leaf, _, routed, last, .appendWith shape fits, fun model => ?_⟩
              rw [apply, Record.appendWith_eq model listed shape, fits]
              rfl
  | reset list =>
      cases listed : Record.listRoute schema list with
      | error error => exact .inl (refused_of_listRoute listed).2.2
      | ok found =>
          obtain ⟨route, leaf⟩ := found
          obtain ⟨routed, last, item, dynamic, shape⟩ := Record.listRoute_ok.mp listed
          right
          refine ⟨route, leaf, _, routed, last, .reset shape, fun model => ?_⟩
          rw [apply, Record.resetList, listed]
          rfl

variable {schema : Schema} {part : Part} {route : Route} {leaf : Field}
  {change : Value → Except EditError Value} {model next : Record}

/-- An edit of one place changes every form, as the value that it is, at the end of a route. -/
structure Updates (schema : Schema) (part : Part) (route : Route) (leaf : Field)
    (change : Value → Except EditError Value) : Prop where
  leads : schema.whole.Leads route leaf
  along : route.map Prod.fst = part.path
  some : part.path ≠ []
  changes : part.Change leaf change
  same : ∀ model,
    (part.apply schema model).map .record = (Value.record model).update change [] route

/-- The schema refuses an edit of one place, or the edit is a change of the form. -/
theorem refused_or_updates (schema : Schema) (part : Part) :
    part.IsRefused schema ∨ ∃ route leaf change, part.Updates schema route leaf change := by
  refine (part.refused_or_changes schema).imp_right ?_
  rintro ⟨route, leaf, change, routed, last, changes, same⟩
  obtain ⟨segments, some, leads⟩ := Schema.leads_of_leaf? routed last
  have nonempty : part.path ≠ [] := by
    rw [← segments]
    simpa using some
  refine ⟨route, leaf, change, leads, segments, nonempty, changes, fun model => ?_⟩
  rw [same, Record.update_whole model leads some]

theorem updates_of_apply (applied : part.apply schema model = .ok next) :
    ∃ route leaf change, part.Updates schema route leaf change := by
  refine (part.refused_or_updates schema).resolve_left ?_
  rintro ⟨error, refused⟩
  rw [refused] at applied
  cases applied

namespace Updates

theorem update_of_apply (updates : part.Updates schema route leaf change)
    (applied : part.apply schema model = .ok next) :
    (Value.record model).update change [] route = .ok (.record next) := by
  rw [← updates.same, applied]
  rfl

theorem apply_of_update {new : Value} (updates : part.Updates schema route leaf change)
    (updated : (Value.record model).update change [] route = .ok new) :
    ∃ next, part.apply schema model = .ok next ∧ new = .record next := by
  rw [← updates.same] at updated
  obtain ⟨next, applied, same⟩ := map_eq_ok_iff.mp updated
  exact ⟨next, applied, same.symm⟩

end Updates

end Part

end ResourceEditor
