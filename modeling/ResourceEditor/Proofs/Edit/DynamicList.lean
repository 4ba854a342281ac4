import ResourceEditor.Path.Basic
import ResourceEditor.Proofs.Edit.Normalization
import ResourceEditor.Proofs.Edit.Run
import ResourceEditor.Proofs.Edit.Update
import ResourceEditor.Proofs.Typing.Conformity
import ResourceEditor.Proofs.Value.Json
import ResourceEditor.Schema.Catalog
/-
This file shows what users of dynamic lists rely on: a dynamic list of a form always has an entry,
and its entries stay at their positions until the list itself is reset.
-/

namespace ResourceEditor

/-- One of the fields of a schema is a dynamic list that can be edited. -/
structure Schema.HasDynamicList (schema : Schema) (name : String) (field item : Field) : Prop where
  declared : schema.field? name = some field
  editable : field.readOnly = false
  shape : field.shape = .list item true

/-- A form has a list under a name, with at least one entry. -/
def Record.HoldsEntries (model : Record) (name : String) (entries : List Value) : Prop :=
  Members.get? model name = some (.list entries) ∧ entries ≠ []

/-- A document has an array, null or nothing for each dynamic list that can be edited. -/
def Schema.ListsIn (schema : Schema) (members : List (String × Json)) : Prop :=
  ∀ name field item, schema.HasDynamicList name field item → ∀ json, (name, json) ∈ members →
    json = .null ∨ ∃ elements, json = .array elements

/-- The forms that editing starts from: a blank one, or one of a resource whose lists are lists. -/
inductive Record.IsStart (schema : Schema) : Record → Prop where
  | blank : IsStart schema schema.blankRecord
  | resource {members : List (String × Json)} {model : Record} (lists : schema.ListsIn members)
      (read : Record.ofResource schema (.object members) = .ok model) : IsStart schema model

section List

variable {schema : Schema} {name : String} {field item : Field} {model next : Record}
  {part : Part} {parts rest : List Part} {entries others : List Value}

namespace Schema.HasDynamicList

theorem nextEntry? (list : schema.HasDynamicList name field item) :
    field.nextEntry? = some item.templateEntry := by
  rw [Field.nextEntry?, list.shape]

theorem holdsEntries_blankRecord (list : schema.HasDynamicList name field item)
    (distinct : schema.isDistinct = true) :
    schema.blankRecord.HoldsEntries name [item.templateEntry] := by
  have names := (schema.isDistinct_iff.mp distinct).1
  refine ⟨?_, List.cons_ne_nil _ _⟩
  rw [Schema.blankRecord, Schema.startRecord_eq]
  refine Members.get?_of_mem (Schema.names_startMembers_sublist.nodup names) ?_
  exact Schema.mem_startMembers.mpr
    ⟨field, Members.mem_of_get? list.declared, list.editable,
      Field.startValue_list list.shape .blank⟩

theorem holdsEntries_normalize (list : schema.HasDynamicList name field item)
    (distinct : schema.isDistinct = true)
    (lists : ∀ value, Members.get? model name = some value → ∃ entries, value = .list entries) :
    ∃ entries, (schema.normalize model).HoldsEntries name entries := by
  -- with its seed the list has an entry, and it has as many when they are normalized
  have seeded : ∃ entries, (field.seed name model).HoldsEntries name entries := by
    have held : Members.get? (field.seed name model) name = _ := Field.get?_seed_list list.shape
    cases there : Members.get? model name with
    | none =>
        rw [Record.lacksEntries, there, if_pos rfl] at held
        exact ⟨_, held, List.cons_ne_nil _ _⟩
    | some value =>
        obtain ⟨entries, rfl⟩ := lists value there
        rw [Record.lacksEntries, there] at held
        cases entries with
        | nil => exact ⟨_, held, List.cons_ne_nil _ _⟩
        | cons entry rest => exact ⟨_, held, List.cons_ne_nil entry rest⟩
  obtain ⟨entries, there, some⟩ := seeded
  refine ⟨entries.map item.normalize, ?_, fun none => some (List.map_eq_nil_iff.mp none)⟩
  rw [Schema.get?_normalize distinct list.declared, there, Option.map_some,
    Field.normalize_list list.shape]

theorem holdsEntries_start (list : schema.HasDynamicList name field item)
    (distinct : schema.isDistinct = true) (start : model.IsStart schema) :
    ∃ entries, model.HoldsEntries name entries := by
  cases start with
  | blank => exact ⟨_, list.holdsEntries_blankRecord distinct⟩
  | resource lists read =>
      cases read
      refine list.holdsEntries_normalize distinct fun value there => ?_
      obtain ⟨json, member, same⟩ := Value.mem_ofMembers (Members.mem_of_get? there)
      obtain rfl | ⟨elements, rfl⟩ := lists name field item list json member
      · cases same
      · cases same
        exact ⟨_, rfl⟩

end Schema.HasDynamicList

/-- What edits of one place leave of the entries of a list: all of them at their positions, those
apart that the edits go into, unless one of the edits resets the list. -/
def Part.Leaves (name : String) (parts : List Part) (entries others : List Value) : Prop :=
  .reset [.field name] ∈ parts ∨ entries.length ≤ others.length ∧
    ∀ (position : Nat) entry, entries[position]? = some entry → others[position]? = some entry ∨
      ∃ part ∈ parts, [.field name, .index position] <+: part.path

namespace Part.Leaves

theorem refl (name : String) (parts : List Part) (entries : List Value) :
    Leaves name parts entries entries :=
  .inr ⟨Nat.le_refl _, fun _ _ there => .inl there⟩

theorem push (name : String) (parts : List Part) (entries : List Value) (entry : Value) :
    Leaves name parts entries (entries ++ [entry]) := by
  refine .inr ⟨by simp, fun position other there => .inl ?_⟩
  rw [List.getElem?_append_left (List.getElem?_eq_some_iff.mp there).1]
  exact there

theorem set (entries : List Value) (value : Value) {position : Nat}
    (inside : [.field name, .index position] <+: part.path) :
    Leaves name [part] entries (entries.set position value) := by
  refine .inr ⟨by simp, fun other entry there => ?_⟩
  by_cases same : position = other
  · subst same
    exact .inr ⟨part, List.mem_singleton_self part, inside⟩
  · rw [List.getElem?_set_ne same]
    exact .inl there

theorem cons {between : List Value} (first : Leaves name [part] entries between)
    (later : Leaves name rest between others) : Leaves name (part :: rest) entries others := by
  obtain reset | ⟨grows, keeps⟩ := first
  · exact .inl (List.mem_singleton.mp reset ▸ List.mem_cons_self)
  · obtain reset | ⟨more, still⟩ := later
    · exact .inl (List.mem_cons_of_mem _ reset)
    · refine .inr ⟨Nat.le_trans grows more, fun position entry there => ?_⟩
      obtain there | ⟨touching, only, inside⟩ := keeps position entry there
      · obtain there | ⟨touching, member, inside⟩ := still position entry there
        · exact .inl there
        · exact .inr ⟨touching, List.mem_cons_of_mem _ member, inside⟩
      · rw [List.mem_singleton.mp only] at inside
        exact .inr ⟨part, List.mem_cons_self, inside⟩

end Part.Leaves

/-- A change at a dynamic list itself adds an entry at its end, or leaves the template alone. -/
theorem Part.Change.leaves {change : Value → Except EditError Value} {new : Value}
    (changes : part.Change field change) (list : schema.HasDynamicList name field item)
    (path : part.path = [.field name]) (changed : change (.list entries) = .ok new) :
    ∃ others, new = .list others ∧ others ≠ [] ∧ Part.Leaves name [part] entries others := by
  cases changes with
  | set shape =>
      rw [list.shape] at shape
      cases shape
  | append shape grows =>
      cases changed
      exact ⟨_, rfl, List.concat_ne_nil _ _, .push name _ entries _⟩
  | appendWith shape fits =>
      cases changed
      exact ⟨_, rfl, List.concat_ne_nil _ _, .push name _ entries _⟩
  | reset shape =>
      cases changed
      cases path
      refine ⟨_, rfl, ?_, .inl (List.mem_singleton_self _)⟩
      rw [list.nextEntry?]
      exact List.cons_ne_nil _ _

/-- A change along a way that starts at a dynamic list is one of the list itself or of the entry
that the way goes through. -/
theorem Part.Change.leaves_update {change : Value → Except EditError Value} {leaf : Field}
    {path : Path} {steps : Route} {new : Value} (changes : part.Change leaf change)
    (list : schema.HasDynamicList name field item) (leads : field.Leads steps leaf)
    (along : part.path = .field name :: steps.map Prod.fst) (some : entries ≠ [])
    (updated : (Value.list entries).update change path steps = .ok new) :
    ∃ others, new = .list others ∧ others ≠ [] ∧ Part.Leaves name [part] entries others := by
  cases leads with
  | here => exact changes.leaves list along updated
  | step first others =>
      cases first with
      | member shape =>
          rw [list.shape] at shape
          cases shape
      | @entry _ _ position shape =>
          obtain ⟨_, old, below, same, _, _, rfl⟩ := Value.update_entry.mp updated
          cases same
          refine ⟨_, rfl, ?_, .set entries below ?_⟩
          · rw [Ne, List.set_eq_nil_iff]
            exact some
          · rw [along]
            exact ⟨_, rfl⟩

/-- An edit of one place leaves an entry in each dynamic list, and the others where they are. -/
theorem Part.leaves_apply (list : schema.HasDynamicList name field item)
    (holds : model.HoldsEntries name entries) (applied : part.apply schema model = .ok next) :
    ∃ others, next.HoldsEntries name others ∧ Part.Leaves name [part] entries others := by
  obtain ⟨there, some⟩ := holds
  obtain ⟨error, refused⟩ | ⟨route, leaf, change, routed, last, changes, same⟩ :=
    part.refused_or_changes schema
  · rw [refused] at applied
    cases applied
  · rw [same] at applied
    obtain ⟨segments, nonempty, leads⟩ := Schema.leads_of_leaf? routed last
    cases leads with
    | here => exact absurd rfl nonempty
    | step first others =>
        cases first with
        | @member _ other own shape declared =>
            cases shape
            rw [Record.update] at applied
            obtain ⟨new, changed, set⟩ := bind_eq_ok_iff.mp applied
            cases set
            by_cases here : other = name
            · subst here
              rw [list.declared, Option.some.injEq] at declared
              subst declared
              rw [Record.memberOrBlank, there, Option.getD_some] at changed
              obtain ⟨left, rfl, some, leaves⟩ :=
                changes.leaves_update list others segments.symm some changed
              exact ⟨left, ⟨by rw [Members.get?_set, if_pos rfl], some⟩, leaves⟩
            · refine ⟨entries, ⟨?_, some⟩, .refl name _ entries⟩
              rw [Members.get?_set, if_neg here]
              exact there
        | entry shape => cases shape

theorem Part.leaves_foldlM (list : schema.HasDynamicList name field item)
    (holds : model.HoldsEntries name entries)
    (applied : parts.foldlM (Part.apply schema) model = .ok next) :
    ∃ others, next.HoldsEntries name others ∧ Part.Leaves name parts entries others := by
  induction parts generalizing model entries with
  | nil =>
      cases applied
      exact ⟨entries, holds, .refl name [] entries⟩
  | cons part rest ih =>
      rw [List.foldlM_cons] at applied
      obtain ⟨reached, first, later⟩ := bind_eq_ok_iff.mp applied
      obtain ⟨between, holding, leaves⟩ := Part.leaves_apply list holds first
      obtain ⟨others, held, still⟩ := ih holding later
      exact ⟨others, held, leaves.cons still⟩

theorem Record.leaves_edited (list : schema.HasDynamicList name field item)
    (holds : model.HoldsEntries name entries) (edit : Edit) :
    ∃ others, (model.edited schema edit).HoldsEntries name others ∧
      Part.Leaves name edit.parts entries others := by
  rw [edited]
  cases applied : edit.apply schema model with
  | error error => exact ⟨entries, holds, .refl name _ entries⟩
  | ok next =>
      rw [Edit.apply_eq_foldlM] at applied
      exact Part.leaves_foldlM list holds applied

theorem Record.holdsEntries_afterEdits (list : schema.HasDynamicList name field item)
    (edits : List Edit) (holds : model.HoldsEntries name entries) :
    ∃ others, (model.afterEdits schema edits).HoldsEntries name others := by
  induction edits generalizing model entries with
  | nil => exact ⟨entries, holds⟩
  | cons edit rest ih =>
      obtain ⟨between, holding, _⟩ := leaves_edited list holds edit
      exact ih holding

/-- In every run of edits, each dynamic list of the form has an entry, before and after each edit.
Unless the edit resets that list, the list gets no shorter and each entry stays as it is at its
position, if no part of the edit goes into it. -/
theorem Record.edited_leaves_entries (distinct : schema.isDistinct = true)
    (start : model.IsStart schema) (list : schema.HasDynamicList name field item)
    (edits : List Edit) (edit : Edit) :
    ∃ entries others,
      (model.afterEdits schema edits).HoldsEntries name entries ∧
      ((model.afterEdits schema edits).edited schema edit).HoldsEntries name others ∧
      Part.Leaves name edit.parts entries others := by
  obtain ⟨first, begins⟩ := list.holdsEntries_start distinct start
  obtain ⟨entries, holds⟩ := holdsEntries_afterEdits list edits begins
  obtain ⟨others, held, leaves⟩ := leaves_edited list holds edit
  exact ⟨entries, others, holds, held, leaves⟩

end List

namespace Record

/-- An app with one port and without features. -/
def appDocument : List (String × Json) :=
  [("name", .string "a"), ("ports", .array [.object [("port", .string "80")]]),
    ("epafeatures", .null)]

/-- A port is added, and then the first one gets a protocol. -/
def portEdits : List Edit :=
  [.append [.field "ports"], .setEntry [.field "ports"] 0 "protocol" "tcp"]

theorem appDocument_lists : Schema.app.ListsIn appDocument := by
  intro name field item list json member
  simp only [appDocument, List.mem_cons, Prod.mk.injEq, List.not_mem_nil, or_false] at member
  obtain ⟨rfl, rfl⟩ | ⟨rfl, rfl⟩ | ⟨rfl, rfl⟩ := member
  · cases list.declared
    cases list.shape
  · exact .inr ⟨_, rfl⟩
  · exact .inl rfl

/-- When the features are reset, the ports stay as they are. -/
theorem portEdits_leave_entries :
    ∃ model entries others, Record.ofResource Schema.app (.object appDocument) = .ok model ∧
      (model.afterEdits Schema.app portEdits).HoldsEntries "ports" entries ∧
      ((model.afterEdits Schema.app portEdits).edited Schema.app
        (.reset [[.field "epafeatures"]])).HoldsEntries "ports" others ∧
      entries.length ≤ others.length ∧
      ∀ (position : Nat) entry, entries[position]? = some entry →
        others[position]? = some entry := by
  have distinct : Schema.app.isDistinct = true := by decide
  have list : Schema.app.HasDynamicList "ports" _ _ := ⟨rfl, rfl, rfl⟩
  obtain ⟨entries, others, before, after, leaves⟩ :=
    edited_leaves_entries distinct (.resource appDocument_lists rfl) list portEdits
      (.reset [[.field "epafeatures"]])
  refine ⟨_, entries, others, rfl, before, after, ?_⟩
  obtain reset | ⟨grows, keeps⟩ := leaves
  · simp [Edit.parts] at reset
  · refine ⟨grows, fun position entry there => (keeps position entry there).resolve_right ?_⟩
    simp [Edit.parts, Part.path]

end Record

end ResourceEditor
