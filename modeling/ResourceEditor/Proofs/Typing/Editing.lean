import ResourceEditor.Proofs.Edit.Run
import ResourceEditor.Proofs.Edit.Update
import ResourceEditor.Proofs.Typing.Conformity
/-
This file shows that edits keep the shape of a form, and that on a form of the right shape they only
fail for what the schema forbids and for positions that a list does not have.
-/

namespace ResourceEditor

variable {asked : Schema → Record → Prop} {field leaf : Field} {route : Route}

/-- The member that an edit goes through has the shape of its field, whether it was there or not. -/
theorem Record.conforms_memberOrBlank {members : Record} {name : String} (upheld : Upheld asked)
    (distinct : field.isDistinct = true)
    (held : ∀ value, Members.get? members name = some value → value.Conforms asked field) :
    (Record.memberOrBlank members name field).Conforms asked field := by
  rw [Record.memberOrBlank]
  cases there : Members.get? members name with
  | none => exact (field.startsTyped upheld distinct).entry .blank
  | some value => exact held value there

theorem Field.Step.isDistinct {segment : Segment} {next : Field} (step : field.Step segment next)
    (distinct : field.isDistinct = true) : next.isDistinct = true := by
  rw [Field.isDistinct_eq] at distinct
  cases step with
  | member shape declared editable =>
      rw [shape] at distinct
      exact Schema.isDistinct_of_field? distinct declared
  | entry shape editable =>
      rw [shape] at distinct
      exact distinct

theorem Field.Leads.isDistinct (leads : field.Leads route leaf)
    (distinct : field.isDistinct = true) : leaf.isDistinct = true := by
  induction leads with
  | here => exact distinct
  | step first _ ih => exact ih (first.isDistinct distinct)

namespace Value

variable {change : Value → Except EditError Value} {path : Path}

/-- A change that keeps the shape of a field keeps the shape of everything around it. -/
theorem conforms_update (upheld : Upheld asked) (leads : field.Leads route leaf)
    (distinct : field.isDistinct = true)
    (keeps : ∀ held changed, held.Conforms asked leaf → change held = .ok changed →
      changed.Conforms asked leaf)
    {value new : Value} (conforms : value.Conforms asked field)
    (updated : value.update change path route = .ok new) : new.Conforms asked field := by
  induction leads generalizing value new path with
  | here => exact keeps value new conforms updated
  | @step field next leaf segment rest first others ih =>
      have inner := first.isDistinct distinct
      cases first with
      | @member schema name _ shape declared editable =>
          -- the member that changes has its shape below, the others are as they were
          obtain ⟨members, below, rfl, inside, rfl⟩ := update_member.mp updated
          obtain ⟨_, same, meets, each⟩ := conforms.of_composite shape
          cases same
          have old := Record.conforms_memberOrBlank upheld inner fun held =>
            each name next held declared
          have new := ih inner keeps old inside
          have met := upheld.set schema members name next below meets declared editable
          refine .record shape met ?_
          intro other field held found there
          rw [Members.get?_set] at there
          split at there
          next here =>
            cases there
            subst here
            rw [declared] at found
            cases found
            exact new
          next => exact each other field held found there
      | entry shape editable =>
          obtain ⟨entries, old, below, rfl, found, inside, rfl⟩ := update_entry.mp updated
          obtain ⟨_, same, each⟩ := conforms.of_list shape
          cases same
          have new := ih inner keeps (each old (List.mem_of_getElem? found)) inside
          refine .list shape ?_
          intro entry member
          obtain there | rfl := List.mem_or_eq_of_mem_set member
          · exact each entry there
          · exact new

/-- On a value of the right shape only a missing position stops an edit on its way. -/
theorem update_error (upheld : Upheld asked) (leads : field.Leads route leaf)
    (distinct : field.isDistinct = true) {value : Value} {error : EditError}
    (conforms : value.Conforms asked field)
    (failed : value.update change path route = .error error) :
    (∃ place index length, error = .indexOutOfRange place index length) ∨
      ∃ held, held.Conforms asked leaf ∧ change held = .error error := by
  induction leads generalizing value path with
  | here => exact .inr ⟨value, conforms, failed⟩
  | @step field next leaf segment rest first others ih =>
      have inner := first.isDistinct distinct
      cases first with
      | @member schema name _ shape declared editable =>
          obtain ⟨members, rfl, _, each⟩ := conforms.of_composite shape
          rw [update] at failed
          obtain inside | ⟨below, _, never⟩ := bind_eq_error_iff.mp failed
          · have old := Record.conforms_memberOrBlank upheld inner fun held =>
              each name next held declared
            exact ih inner old inside
          · cases never
      | @entry item dynamic position shape editable =>
          obtain ⟨entries, rfl, each⟩ := conforms.of_list shape
          rw [update] at failed
          cases found : entries[position]? with
          | none =>
              rw [found] at failed
              cases failed
              exact .inl ⟨_, _, _, rfl⟩
          | some old =>
              rw [found] at failed
              obtain inside | ⟨below, _, never⟩ := bind_eq_error_iff.mp failed
              · exact ih inner (each old (List.mem_of_getElem? found)) inside
              · cases never

end Value

namespace Part

variable {schema : Schema} {part : Part}

/-- An entry that an edit brings along has the shape of the list's entries. -/
def Fits (asked : Schema → Record → Prop) (schema : Schema) : Part → Prop
  | .appendWith list entry => ∀ route field item dynamic,
      Record.listRoute schema list = .ok (route, field) → field.shape = .list item dynamic →
      entry.Conforms asked item
  | _ => True

theorem fits_of_bringsEntry {edit : Edit} (none : edit.bringsEntry = false)
    (member : part ∈ edit.parts) : part.Fits asked schema := by
  cases edit with
  | appendWith => cases none
  | reset lists =>
      obtain ⟨list, _, rfl⟩ := List.mem_map.mp member
      trivial
  | _ =>
      cases List.mem_singleton.mp member
      trivial

theorem conforms_read {rule : ScalarRule} (shape : leaf.shape = .scalar rule) (raw : String) :
    (rule.read raw).Conforms asked leaf := by
  rw [ScalarRule.read]
  cases kind : rule.kind with
  | number => exact .number shape kind _
  | _ => exact .text shape (by rw [kind]; exact ScalarKind.noConfusion) raw

theorem conforms_push {list : Path} {item : Field} {dynamic : Bool} {entry held changed : Value}
    (shape : leaf.shape = .list item dynamic) (fits : entry.Conforms asked item)
    (conforms : held.Conforms asked leaf) (changes : Record.push list entry held = .ok changed) :
    changed.Conforms asked leaf := by
  obtain ⟨entries, rfl, each⟩ := conforms.of_list shape
  cases changes
  refine .list shape ?_
  intro other member
  obtain there | last := List.mem_append.mp member
  · exact each other there
  · exact List.mem_singleton.mp last ▸ fits

/-- The next entry of a list has the shape of the list's entries. -/
theorem conforms_nextEntry (upheld : Upheld asked) (distinct : leaf.isDistinct = true)
    {item : Field} {dynamic : Bool} (shape : leaf.shape = .list item dynamic) {entry : Value}
    (grows : leaf.nextEntry? = some entry) : entry.Conforms asked item := by
  rw [Field.isDistinct_eq, shape] at distinct
  obtain ⟨start, next⟩ := Field.nextEntry?_eq shape
  rw [grows, Option.some.injEq] at next
  exact next ▸ (item.startsTyped upheld distinct).entry start

/-- What an edit makes of a value of its field has the shape of the field again. -/
theorem Change.conforms (upheld : Upheld asked) (distinct : leaf.isDistinct = true)
    (routed : schema.route part.path = .ok route) (last : route.leaf? = some leaf)
    (fits : part.Fits asked schema) {change : Value → Except EditError Value}
    (changes : part.Change leaf change) {held changed : Value} (conforms : held.Conforms asked leaf)
    (given : change held = .ok changed) : changed.Conforms asked leaf := by
  cases changes with
  | set shape =>
      cases given
      exact conforms_read shape _
  | append shape grows =>
      exact conforms_push shape (conforms_nextEntry upheld distinct shape grows) conforms given
  | appendWith shape _ =>
      have entry := fits route leaf _ _ (Record.listRoute_ok.mpr ⟨routed, last, _, _, shape⟩) shape
      exact conforms_push shape entry conforms given
  | reset shape =>
      cases given
      refine .list shape ?_
      intro entry member
      exact conforms_nextEntry upheld distinct shape (Option.mem_toList.mp member)

/-- An edit never fails at a value of its field. -/
theorem Change.ok {change : Value → Except EditError Value} (changes : part.Change leaf change)
    {held : Value} (conforms : held.Conforms asked leaf) :
    ∃ changed, change held = .ok changed := by
  cases changes with
  | set shape => exact ⟨_, rfl⟩
  | append shape _ =>
      obtain ⟨entries, rfl, _⟩ := conforms.of_list shape
      exact ⟨_, rfl⟩
  | appendWith shape _ =>
      obtain ⟨entries, rfl, _⟩ := conforms.of_list shape
      exact ⟨_, rfl⟩
  | reset shape => exact ⟨_, rfl⟩

end Part

section Form

variable {schema : Schema} {part : Part} {model next : Record} {error : EditError}

theorem Part.conforms_apply (upheld : Upheld asked) (distinct : schema.isDistinct = true)
    (fits : part.Fits asked schema) (conforms : (Value.record model).Conforms asked schema.whole)
    (applied : part.apply schema model = .ok next) :
    (Value.record next).Conforms asked schema.whole := by
  obtain ⟨error, refused⟩ | ⟨route, leaf, change, routed, last, changes, same⟩ :=
    part.refused_or_changes schema
  · rw [refused] at applied
    cases applied
  · obtain ⟨_, some, leads⟩ := Schema.leads_of_leaf? routed last
    rw [same] at applied
    refine Value.conforms_update upheld leads distinct ?_ conforms
      (Record.update_ok leads some applied)
    intro held changed before given
    exact changes.conforms upheld (leads.isDistinct distinct) routed last fits before given

/-- On a form of the right shape an edit only fails on its way, for a position that a list does not
have. -/
theorem Part.Change.update_error (upheld : Upheld asked) (distinct : schema.isDistinct = true)
    {change : Value → Except EditError Value} (changes : part.Change leaf change)
    (routed : schema.route part.path = .ok route) (last : route.leaf? = some leaf)
    (conforms : (Value.record model).Conforms asked schema.whole)
    (failed : model.update change route = .error error) :
    ∃ place index length, error = .indexOutOfRange place index length := by
  obtain ⟨_, some, leads⟩ := Schema.leads_of_leaf? routed last
  have stopped : (Value.record model).update change [] route = .error error := by
    rw [Record.update_whole model leads some, failed]
    rfl
  obtain missing | ⟨held, before, never⟩ :=
    Value.update_error upheld leads distinct conforms stopped
  · exact missing
  · obtain ⟨changed, given⟩ := changes.ok before
    rw [given] at never
    cases never

/-- An edit of one place that fails otherwise fails in the same way on every form. -/
theorem Part.apply_error (upheld : Upheld asked) (distinct : schema.isDistinct = true)
    (conforms : (Value.record model).Conforms asked schema.whole)
    (failed : part.apply schema model = .error error) :
    (∃ place index length, error = .indexOutOfRange place index length) ∨
      ∀ other, part.apply schema other = .error error := by
  obtain ⟨always, refused⟩ | ⟨route, leaf, change, routed, last, changes, same⟩ :=
    part.refused_or_changes schema
  · rw [refused, Except.error.injEq] at failed
    exact .inr (failed ▸ refused)
  · rw [same] at failed
    exact .inl (changes.update_error upheld distinct routed last conforms failed)

/-- An edit that does not fail for a position that is missing has a part that fails in the same way
on every form. -/
theorem Edit.apply_error (upheld : Upheld asked) (distinct : schema.isDistinct = true)
    (conforms : (Value.record model).Conforms asked schema.whole) {edit : Edit}
    (failed : edit.apply schema model = .error error) :
    (∃ place index length, error = .indexOutOfRange place index length) ∨
      ∃ part ∈ edit.parts, ∀ other, part.apply schema other = .error error := by
  have stopped : ∃ part ∈ edit.parts, ∃ reached,
      (Value.record reached).Conforms asked schema.whole ∧
        part.apply schema reached = .error error := by
    rw [Edit.apply_eq_foldlM] at failed
    obtain ⟨part, only⟩ | resets := edit.parts_cases
    · rw [only, Part.foldlM_single] at failed
      exact ⟨part, by rw [only]; exact List.mem_singleton_self part, model, conforms, failed⟩
    · refine Part.foldlM_error ?_ conforms failed
      intro part member model next before applied
      obtain ⟨list, rfl⟩ := resets part member
      have fits : (Part.reset list).Fits asked schema := trivial
      exact Part.conforms_apply upheld distinct fits before applied
  obtain ⟨part, member, reached, before, failed⟩ := stopped
  exact (part.apply_error upheld distinct before failed).imp_right fun always =>
    ⟨part, member, always⟩

/-- Adding the schema's next entry fails for the way to the list only. -/
theorem Record.append_error (upheld : Upheld asked) (distinct : schema.isDistinct = true)
    (conforms : (Value.record model).Conforms asked schema.whole) {list : Path}
    (failed : append schema model list = .error error) :
    (∃ place index length, error = .indexOutOfRange place index length) ∨
      listRoute schema list = .error error := by
  cases listed : listRoute schema list with
  | error other =>
      rw [append, listed] at failed
      cases failed
      exact .inr rfl
  | ok found =>
      obtain ⟨route, leaf⟩ := found
      obtain ⟨routed, last, item, dynamic, shape⟩ := listRoute_ok.mp listed
      obtain ⟨start, grows⟩ := Field.nextEntry?_eq shape
      rw [append_eq model listed shape grows] at failed
      have changes : (Part.append list).Change leaf (push list (item.startEntry start)) :=
        .append shape grows
      exact .inl (changes.update_error upheld distinct routed last conforms failed)

/-- A run of edits that brings along entries of the right shape only keeps the shape of a form. -/
theorem Record.conforms_afterEdits (upheld : Upheld asked) (distinct : schema.isDistinct = true)
    {edits : List Edit} (fits : ∀ edit ∈ edits, ∀ part ∈ edit.parts, part.Fits asked schema)
    (conforms : (Value.record model).Conforms asked schema.whole) :
    (Value.record (model.afterEdits schema edits)).Conforms asked schema.whole := by
  refine Record.afterEdits_invariant (fun model => (Value.record model).Conforms asked schema.whole)
    ?_ conforms
  intro edit inRun part inEdit model next before applied
  exact part.conforms_apply upheld distinct (fits edit inRun part inEdit) before applied

theorem Record.conforms_blankRecord (upheld : Upheld asked) (distinct : schema.isDistinct = true) :
    (Value.record schema.blankRecord).Conforms asked schema.whole :=
  (schema.whole.startsTyped upheld distinct).entry .blank

end Form

end ResourceEditor
