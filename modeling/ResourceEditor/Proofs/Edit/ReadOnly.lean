import ResourceEditor.Proofs.Typing.Editing
import ResourceEditor.Schema.Catalog
/-
This file shows that read-only fields cannot be forged: no edit creates or changes what a form holds
below one. It only goes when a list around it is reset.
-/

namespace ResourceEditor

namespace Field

/-- A path goes through a field of a record that is read-only. -/
inductive Guards : Field → Path → Prop where
  | here {field next : Field} {schema : Schema} {name : String} {rest : Path}
      (shape : field.shape = .composite schema) (declared : schema.field? name = some next)
      (locked : next.readOnly = true) : Guards field (.field name :: rest)
  | member {field next : Field} {schema : Schema} {name : String} {rest : Path}
      (shape : field.shape = .composite schema) (declared : schema.field? name = some next)
      (below : Guards next rest) : Guards field (.field name :: rest)
  | entry {field item : Field} {dynamic : Bool} {position : Nat} {rest : Path}
      (shape : field.shape = .list item dynamic) (below : Guards item rest) :
      Guards field (.index position :: rest)

variable {field next item : Field} {path rest : Path}

theorem Guards.ne_nil (guards : field.Guards path) : path ≠ [] := by
  cases guards <;> exact List.cons_ne_nil _ _

theorem Guards.not_scalar {rule : ScalarRule} (guards : field.Guards path) :
    field.shape ≠ .scalar rule := by
  intro scalar
  cases guards with
  | here shape => simp [shape] at scalar
  | member shape => simp [shape] at scalar
  | entry shape => simp [shape] at scalar

/-- Below a record, the field of the first name is read-only, or it guards the rest of the path. -/
theorem Guards.of_composite {schema : Schema} (guards : field.Guards path)
    (shape : field.shape = .composite schema) :
    ∃ name next rest, path = .field name :: rest ∧ schema.field? name = some next ∧
      (next.readOnly = true ∨ next.Guards rest) := by
  cases guards with
  | here again declared locked =>
      rw [shape, Shape.composite.injEq] at again
      exact ⟨_, _, _, rfl, again ▸ declared, .inl locked⟩
  | member again declared below =>
      rw [shape, Shape.composite.injEq] at again
      exact ⟨_, _, _, rfl, again ▸ declared, .inr below⟩
  | entry again => simp [shape] at again

theorem Guards.of_list {dynamic : Bool} (guards : field.Guards path)
    (shape : field.shape = .list item dynamic) :
    ∃ position rest, path = .index position :: rest ∧ item.Guards rest := by
  cases guards with
  | here again => simp [shape] at again
  | member again => simp [shape] at again
  | entry again below =>
      rw [shape, Shape.list.injEq] at again
      exact ⟨_, _, rfl, again.1 ▸ below⟩

/-- A path that goes through a read-only field does so below each editable field on its way. -/
theorem Guards.of_step {segment : Segment} (first : field.Step segment next)
    (guards : field.Guards (segment :: rest)) : next.Guards rest := by
  cases first with
  | member shape declared editable =>
      obtain ⟨name, other, below, same, there, either⟩ := guards.of_composite shape
      cases same
      rw [declared, Option.some.injEq] at there
      subst there
      exact either.resolve_left (by rw [editable]; exact Bool.false_ne_true)
  | entry shape editable =>
      obtain ⟨position, below, same, further⟩ := guards.of_list shape
      cases same
      exact further

/-- A fresh list holds nothing below a read-only field if fresh entries do not. -/
theorem at?_fresh_entries (dynamic : Bool) (position : Nat)
    (blank : (item.startEntry .template).at? rest = none) :
    (Value.list (if dynamic then [item.startEntry .template] else [])).at?
      (.index position :: rest) = none := by
  rw [Value.at?_cons, Value.step?_list]
  cases dynamic with
  | false => rfl
  | true =>
      cases position with
      | zero => exact blank
      | succ position => rfl

/-- A fresh record holds nothing for a read-only field. -/
theorem get?_startRecord_of_readOnly {schema : Schema} {name : String}
    (distinct : schema.isDistinct = true) (declared : schema.field? name = some field)
    (locked : field.readOnly = true) (start : Start) :
    Members.get? (schema.startRecord start) name = none := by
  refine Members.get?_of_not_mem fun member => ?_
  rw [Schema.startRecord_eq] at member
  obtain ⟨⟨_, value⟩, there, rfl⟩ := List.mem_map.mp member
  obtain ⟨other, listed, editable, _⟩ := Schema.mem_startMembers.mp there
  have same : schema.field? _ = some other :=
    Members.get?_of_mem (schema.isDistinct_iff.mp distinct).1 listed
  rw [declared, Option.some.injEq] at same
  rw [← same, locked] at editable
  cases editable

/-- What a form starts from or grows by holds nothing below a read-only field. -/
theorem Guards.at?_start (guards : field.Guards path) (distinct : field.isDistinct = true)
    (start : Start) :
    (field.startEntry start).at? path = none ∧
      ∀ value, field.startValue start = some value → value.at? path = none := by
  induction guards generalizing start with
  | @here field next schema name rest shape declared locked =>
      obtain ⟨title, readOnly, _⟩ := field
      cases shape
      constructor
      · have none := get?_startRecord_of_readOnly distinct declared locked start
        rw [startEntry, Shape.startEntry, Value.at?_cons, Value.step?_record, none]
        rfl
      · intro value starts
        cases starts
  | @member field next schema name rest shape declared below ih =>
      obtain ⟨title, readOnly, _⟩ := field
      cases shape
      constructor
      · rw [startEntry, Shape.startEntry, Value.at?_cons, Value.step?_record]
        cases held : Members.get? (schema.startRecord start) name with
        | none => rfl
        | some value =>
            have inner := Schema.isDistinct_of_field? distinct declared
            exact (ih inner start).2 value (Schema.startValue_of_get? distinct declared held)
      · intro value starts
        cases starts
  | @entry field item dynamic position rest shape below ih =>
      obtain ⟨title, readOnly, _⟩ := field
      cases shape
      have blank := at?_fresh_entries dynamic position (ih distinct .template).1
      constructor
      · exact blank
      · intro value starts
        cases starts
        exact blank

end Field

/-- What is held somewhere is as it was, or it is gone for a reason. -/
def Kept (reason : Prop) (old new : Option Value) : Prop :=
  new = old ∨ new = none ∧ reason

namespace Kept

variable {first second : Prop} {old between new : Option Value}

theorem refl (reason : Prop) (held : Option Value) : Kept reason held held :=
  .inl rfl

theorem mono (weaker : first → second) (kept : Kept first old new) : Kept second old new :=
  kept.imp_right fun ⟨gone, reason⟩ => ⟨gone, weaker reason⟩

theorem trans (here : Kept first old between) (later : Kept second between new) :
    Kept (first ∨ second) old new := by
  obtain rfl | ⟨gone, reason⟩ := later
  · exact here.mono .inl
  · exact .inr ⟨gone, .inr reason⟩

end Kept

section Change

variable {schema : Schema} {field leaf item : Field} {route : Route} {path place : Path}
  {part : Part} {change : Value → Except EditError Value} {held changed value new : Value}

theorem Value.at?_push {list : Path} {start : Start} (guards : item.Guards path)
    (distinct : item.isDistinct = true) (position : Nat)
    (grown : Record.push list (item.startEntry start) held = .ok changed) :
    changed.at? (.index position :: path) = held.at? (.index position :: path) := by
  cases held with
  | list entries =>
      cases grown
      rw [at?_cons, at?_cons, step?_list, step?_list, List.getElem?_append]
      split
      next => rfl
      next beyond =>
        have absent : entries[position]? = none := List.getElem?_eq_none (by omega)
        rw [absent, List.getElem?_singleton]
        split
        next => exact (guards.at?_start distinct start).1
        next => rfl
  | _ => cases grown

/-- At the end of its route an edit leaves alone what lies below read-only fields, or it resets the
list that it lies in. -/
theorem Part.Change.kept (changes : part.Change leaf change)
    (own : ∀ list entry, part ≠ .appendWith list entry) (distinct : leaf.isDistinct = true)
    (guards : leaf.Guards path) (given : change held = .ok changed) :
    Kept (∃ list, part = .reset list) (held.at? path) (changed.at? path) := by
  rw [Field.isDistinct_eq] at distinct
  cases changes with
  | set shape => exact absurd shape guards.not_scalar
  | append shape grows =>
      obtain ⟨start, next⟩ := Field.nextEntry?_eq shape
      rw [grows, Option.some.injEq] at next
      subst next
      rw [shape] at distinct
      obtain ⟨position, rest, rfl, below⟩ := guards.of_list shape
      exact .inl (Value.at?_push below distinct position given)
  | appendWith => exact absurd rfl (own _ _)
  | reset shape =>
      cases given
      obtain ⟨start, next⟩ := Field.nextEntry?_eq shape
      rw [shape] at distinct
      obtain ⟨position, rest, rfl, below⟩ := guards.of_list shape
      refine .inr ⟨?_, _, rfl⟩
      rw [next, Option.toList_some, Value.at?_cons, Value.step?_list, List.getElem?_singleton]
      split
      next => exact (below.at?_start distinct start).1
      next => rfl

/-- A member that is created on the way holds nothing below a read-only field. -/
theorem Field.Guards.at?_orBlank (guards : field.Guards path) (distinct : field.isDistinct = true)
    (held : Option Value) :
    (held.getD field.blankEntry).at? path = held.bind fun value => value.at? path := by
  cases held with
  | none => exact (guards.at?_start distinct .blank).1
  | some value => rfl

/-- A change at the end of a route leaves alone what lies below read-only fields, if it does so at
its end. -/
theorem Value.kept_update {reason : Prop} (leads : field.Leads route leaf)
    (distinct : field.isDistinct = true)
    (keeps : ∀ rest held changed, leaf.Guards rest → change held = .ok changed →
      Kept reason (held.at? rest) (changed.at? rest))
    (guards : field.Guards path) (updated : value.update change place route = .ok new) :
    Kept (reason ∧ route.map Prod.fst <+: path) (value.at? path) (new.at? path) := by
  induction leads generalizing value new place path with
  | here => exact (keeps path value new guards updated).mono fun why => ⟨why, List.nil_prefix⟩
  | @step field next leaf segment steps first others ih =>
      have inner := first.isDistinct distinct
      obtain ⟨below, inside, found, beside⟩ := step?_of_update updated
      obtain ⟨other, rest, rfl⟩ := List.exists_cons_of_ne_nil guards.ne_nil
      rw [at?_cons, at?_cons]
      by_cases along : other = segment
      · -- the route goes on where the path does, so the path is guarded further down
        subst along
        have further := guards.of_step first
        have kept := ih inner keeps further inside
        rw [further.at?_orBlank inner] at kept
        rw [found]
        exact kept.mono fun ⟨why, along⟩ => ⟨why, (List.prefix_cons_inj _).mpr along⟩
      · rw [beside other along]
        exact .inl rfl

end Change

section Run

variable {schema : Schema} {path : Path} {model next : Record} {part : Part}

theorem Part.kept_apply (own : ∀ list entry, part ≠ .appendWith list entry)
    (distinct : schema.isDistinct = true) (guards : schema.whole.Guards path)
    (applied : part.apply schema model = .ok next) :
    Kept (∃ list, part = .reset list ∧ list <+: path) (model.at? path) (next.at? path) := by
  obtain ⟨route, leaf, change, updates⟩ := Part.updates_of_apply applied
  have kept := Value.kept_update updates.leads distinct
    (fun _ _ _ below given => updates.changes.kept own (updates.leads.isDistinct distinct) below
      given) guards (updates.update_of_apply applied)
  rw [Record.at?_of_ne_nil model guards.ne_nil, Record.at?_of_ne_nil next guards.ne_nil]
  refine kept.mono fun ⟨⟨list, resets⟩, along⟩ => ⟨list, resets, ?_⟩
  subst resets
  rw [updates.along] at along
  exact along

theorem Part.kept_foldlM {parts : List Part}
    (own : ∀ part ∈ parts, ∀ list entry, part ≠ .appendWith list entry)
    (distinct : schema.isDistinct = true) (guards : schema.whole.Guards path)
    (applied : parts.foldlM (Part.apply schema) model = .ok next) :
    Kept (∃ list, .reset list ∈ parts ∧ list <+: path) (model.at? path) (next.at? path) := by
  induction parts generalizing model with
  | nil =>
      cases applied
      exact .refl _ _
  | cons part rest ih =>
      rw [List.foldlM_cons] at applied
      obtain ⟨reached, first, later⟩ := bind_eq_ok_iff.mp applied
      obtain ⟨here, others⟩ := List.forall_mem_cons.mp own
      refine ((kept_apply here distinct guards first).trans (ih others later)).mono ?_
      rintro (⟨list, rfl, along⟩ | ⟨list, member, along⟩)
      · exact ⟨list, List.mem_cons_self, along⟩
      · exact ⟨list, List.mem_cons_of_mem _ member, along⟩

theorem Edit.ne_appendWith {edit : Edit} (none : edit.bringsEntry = false)
    (member : part ∈ edit.parts) (list : Path) (entry : Value) :
    part ≠ .appendWith list entry := by
  rintro rfl
  cases edit with
  | appendWith => cases none
  | reset lists =>
      obtain ⟨_, _, same⟩ := List.mem_map.mp member
      cases same
  | _ => cases List.mem_singleton.mp member

theorem Edit.reset_of_mem_parts {edit : Edit} {list : Path} (member : .reset list ∈ edit.parts) :
    ∃ lists, edit = .reset lists ∧ list ∈ lists := by
  cases edit with
  | reset lists =>
      obtain ⟨other, named, same⟩ := List.mem_map.mp member
      cases same
      exact ⟨lists, rfl, named⟩
  | _ => cases List.mem_singleton.mp member

/-- An edit resets lists, one of them on the way to a path, and succeeds. -/
def Edit.Discards (schema : Schema) (model : Record) (path : Path) (edit : Edit) : Prop :=
  ∃ lists list next, edit = .reset lists ∧ list ∈ lists ∧ list <+: path ∧
    edit.apply schema model = .ok next

/-- One of the edits of a run discards what is held at a path. -/
def Record.IsDiscarded (schema : Schema) (model : Record) (path : Path) (edits : List Edit) :
    Prop :=
  ∃ before edit after, edits = before ++ edit :: after ∧
    edit.Discards schema (model.afterEdits schema before) path

theorem Record.kept_edited (distinct : schema.isDistinct = true)
    (guards : schema.whole.Guards path) (model : Record) {edit : Edit}
    (own : edit.bringsEntry = false) :
    Kept (edit.Discards schema model path) (model.at? path)
      ((model.edited schema edit).at? path) := by
  rw [edited]
  cases applied : edit.apply schema model with
  | error error => exact .refl _ _
  | ok next =>
      have parts := applied
      rw [Edit.apply_eq_foldlM] at parts
      have kept := Part.kept_foldlM (fun part => Edit.ne_appendWith own) distinct guards parts
      refine kept.mono ?_
      rintro ⟨list, member, along⟩
      obtain ⟨lists, reset, named⟩ := Edit.reset_of_mem_parts member
      exact ⟨lists, list, next, reset, named, along, applied⟩

theorem Record.IsDiscarded.of_head {edit : Edit} (edits : List Edit)
    (discards : edit.Discards schema model path) :
    model.IsDiscarded schema path (edit :: edits) :=
  ⟨[], edit, edits, rfl, discards⟩

theorem Record.IsDiscarded.of_tail (edit : Edit) {edits : List Edit}
    (discarded : (model.edited schema edit).IsDiscarded schema path edits) :
    model.IsDiscarded schema path (edit :: edits) := by
  obtain ⟨before, culprit, after, rfl, discards⟩ := discarded
  exact ⟨edit :: before, culprit, after, rfl, discards⟩

theorem Record.kept_afterEdits (distinct : schema.isDistinct = true)
    (guards : schema.whole.Guards path) (model : Record) {edits : List Edit}
    (own : ∀ edit ∈ edits, edit.bringsEntry = false) :
    Kept (model.IsDiscarded schema path edits) (model.at? path)
      ((model.afterEdits schema edits).at? path) := by
  induction edits generalizing model with
  | nil => exact .refl _ _
  | cons edit rest ih =>
      obtain ⟨here, later⟩ := List.forall_mem_cons.mp own
      refine ((kept_edited distinct guards model here).trans
        (ih (model.edited schema edit) later)).mono ?_
      rintro (discards | discarded)
      · exact .of_head rest discards
      · exact .of_tail edit discarded

/-- In every run of edits that bring no entries along, what the form holds at a path through a
read-only field is what it held there at the start, or nothing once an edit has reset a list around
it. A further edit does not bring it forth or change it either. -/
theorem Record.readOnly_unforged (distinct : schema.isDistinct = true)
    (guards : schema.whole.Guards path) (model : Record) (edits : List Edit)
    (own : ∀ edit ∈ edits, edit.bringsEntry = false) :
    ((model.afterEdits schema edits).at? path = model.at? path ∨
      (model.afterEdits schema edits).at? path = none ∧ model.IsDiscarded schema path edits) ∧
    ∀ edit : Edit, edit.bringsEntry = false →
      ((model.afterEdits schema edits).edited schema edit).at? path =
        (model.afterEdits schema edits).at? path ∨
      ((model.afterEdits schema edits).edited schema edit).at? path = none ∧
        edit.Discards schema (model.afterEdits schema edits) path :=
  ⟨kept_afterEdits distinct guards model own,
    fun _ brings => kept_edited distinct guards (model.afterEdits schema edits) brings⟩

namespace Record

/-- A node with an identifier that the controller gave it. -/
def namedNodes : Record :=
  [("nodes", .list [.record [("id", .text "n1"), ("name", .text "a")]])]

/-- The node gets another name and another node comes, also with an identifier if that were
possible. -/
def nodeEdits : List Edit :=
  [.setEntry [.field "nodes"] 0 "name" "b", .append [.field "nodes"],
    .setEntry [.field "nodes"] 1 "id" "n2"]

theorem nodes_guards (position : Nat) :
    Schema.nodes.whole.Guards [.field "nodes", .index position, .field "id"] :=
  .member rfl rfl (.entry rfl (.here rfl rfl rfl))

/-- The first node keeps its identifier and the second one gets none. -/
theorem nodeEdits_readOnly_unforged :
    (namedNodes.afterEdits Schema.nodes nodeEdits).at?
        [.field "nodes", .index 0, .field "id"] = some (.text "n1") ∧
      (namedNodes.afterEdits Schema.nodes nodeEdits).at?
        [.field "nodes", .index 1, .field "id"] = none := by
  have distinct : Schema.nodes.isDistinct = true := by decide
  have own : ∀ edit ∈ nodeEdits, edit.bringsEntry = false := by decide
  have unforged (position : Nat) :=
    (readOnly_unforged distinct (nodes_guards position) namedNodes nodeEdits own).1
  constructor
  · obtain same | ⟨_, before, edit, after, split, lists, list, next, rfl, _⟩ := unforged 0
    · exact same
    · have member : Edit.reset lists ∈ nodeEdits := by simp [split]
      simp [nodeEdits] at member
  · obtain same | ⟨gone, _⟩ := unforged 1
    · exact same.trans rfl
    · exact gone

end Record

end Run

end ResourceEditor
