import ResourceEditor.Proofs.Edit.Commutation
/-
This file shows that lists only grow at their ends: an append keeps the entries of its list at their
positions, and changes nothing that lies beside the list.
-/

namespace ResourceEditor

namespace Field

variable {field leaf item : Field} {route : Route} {dynamic : Bool}

/-- What a fresh record holds for a field is the fresh entry of the field. -/
theorem startEntry_of_startValue {start : Start} {value : Value}
    (starts : field.startValue start = some value) : field.startEntry start = value := by
  obtain ⟨title, readOnly, shape⟩ := field
  cases shape with
  | scalar rule =>
      obtain ⟨kind, minimum, maximum, pattern, allowed, default⟩ := rule
      cases kind <;> cases start <;> cases starts <;> rfl
  | composite schema => cases starts
  | list item dynamic =>
      cases starts
      rfl

theorem startEntry_list (shape : field.shape = .list item dynamic) (start : Start) :
    field.startEntry start = field.blankEntry := by
  obtain ⟨title, readOnly, _⟩ := field
  cases shape
  rfl

/-- Wherever a fresh value has a list, the list is blank. -/
theorem Leads.at?_startEntry (leads : field.Leads route leaf) (fresh : field.isDistinct = true)
    (shape : leaf.shape = .list item dynamic) {start : Start} {held : Value}
    (there : (field.startEntry start).at? (route.map Prod.fst) = some held) :
    held = leaf.blankEntry := by
  induction leads generalizing start held with
  | here field =>
      cases there
      exact startEntry_list shape start
  | @step field next leaf segment rest first others ih =>
      rw [List.map_cons, Value.at?_cons] at there
      obtain ⟨below, inside, further⟩ := Option.bind_eq_some_iff.mp there
      have starts : ∃ start, next.startEntry start = below := by
        obtain ⟨title, readOnly, _⟩ := field
        cases first with
        | member outline declared editable =>
            cases outline
            have inner : Schema.isDistinct _ = true := fresh
            exact ⟨start, startEntry_of_startValue
              (Schema.startValue_of_get? inner declared inside)⟩
        | @entry _ dynamic position outline editable =>
            cases outline
            rw [startEntry, Shape.startEntry, Value.step?_list] at inside
            have member := List.mem_of_getElem? inside
            cases dynamic with
            | false => cases member
            | true => exact ⟨.template, (List.mem_singleton.mp member).symm⟩
      obtain ⟨start, rfl⟩ := starts
      exact ih (first.isDistinct fresh) shape further

end Field

namespace Value

variable {change : Value → Except EditError Value} {place : Path} {route : Route}
  {field leaf item : Field} {dynamic : Bool} {value new : Value}

/-- A change of a list finds what is there, or the blank list if there is nothing. -/
theorem held_of_update (leads : field.Leads route leaf) (fresh : field.isDistinct = true)
    (shape : leaf.shape = .list item dynamic)
    (updated : value.update change place route = .ok new) :
    ∃ held changed, change held = .ok changed ∧ new.at? (route.map Prod.fst) = some changed ∧
      (value.at? (route.map Prod.fst) = some held ∨
        value.at? (route.map Prod.fst) = none ∧ held = leaf.blankEntry) := by
  induction leads generalizing value new place with
  | here => exact ⟨value, new, updated, at?_nil new, .inl (at?_nil value)⟩
  | @step field next leaf segment rest first others ih =>
      obtain ⟨below, inside, found, -⟩ := step?_of_update updated
      obtain ⟨held, changed, given, reached, source⟩ := ih (first.isDistinct fresh) shape inside
      rw [List.map_cons, at?_cons, at?_cons, found]
      refine ⟨held, changed, given, reached, ?_⟩
      cases there : value.step? segment with
      | some inner =>
          rw [there, Option.getD_some] at source
          exact source
      | none =>
          -- what is found below comes from the blank value that the step enters
          rw [there, Option.getD_none] at source
          refine .inr ⟨rfl, ?_⟩
          obtain held | ⟨_, blank⟩ := source
          · exact others.at?_startEntry (first.isDistinct fresh) shape held
          · exact blank

end Value

namespace Record

variable {schema : Schema} {model next last : Record} {path : Path} {entries : List Value}
  {entry : Value} {leaf : Field} {count : Nat}

/-- The entries of a list for someone who appends to it: those that the form has at the path of the
list, or, if the form has nothing there, those of the blank list. -/
def EntriesAt (schema : Schema) (model : Record) (path : Path) (entries : List Value) : Prop :=
  model.at? path = some (.list entries) ∨
    model.at? path = none ∧
      ∃ leaf, schema.whole.Reaches path leaf ∧ leaf.blankEntry = .list entries

/-- To append puts an entry at the end of the entries that are there. -/
theorem appendWith_entries (fresh : schema.isDistinct = true)
    (done : appendWith schema model path entry = .ok next) :
    ∃ entries, EntriesAt schema model path entries ∧
      next.at? path = some (.list (entries ++ [entry])) := by
  have applied : (Part.appendWith path entry).apply schema model = .ok next := done
  obtain ⟨route, leaf, change, updates⟩ := Part.updates_of_apply applied
  have along : route.map Prod.fst = path := updates.along
  have some : path ≠ [] := updates.some
  cases updates.changes with
  | appendWith shape fits =>
      obtain ⟨held, changed, given, reached, source⟩ :=
        Value.held_of_update updates.leads fresh shape (updates.update_of_apply applied)
      rw [along, ← at?_of_ne_nil _ some] at reached source
      cases held with
      | list entries =>
          cases given
          refine ⟨entries, source.imp_right fun ⟨missing, blank⟩ => ⟨missing, leaf, ?_⟩, reached⟩
          exact ⟨⟨route, updates.leads, along⟩, blank.symm⟩
      | _ => cases given

/-- The path of a field that grows is the way to a list. -/
theorem listRoute_of_reaches (reaches : schema.whole.Reaches path leaf)
    (grows : leaf.nextEntry? = some entry) :
    ∃ route, schema.whole.Leads route leaf ∧ route ≠ [] ∧ route.map Prod.fst = path ∧
      listRoute schema path = .ok (route, leaf) := by
  obtain ⟨route, leads, rfl⟩ := reaches
  have some : route ≠ [] := by
    rintro rfl
    cases leads
    cases grows
  obtain ⟨routed, last⟩ := Schema.route_of_leads leads some
  cases shape : leaf.shape with
  | list item dynamic =>
      exact ⟨route, leads, some, rfl, listRoute_ok.mpr ⟨routed, last, item, dynamic, shape⟩⟩
  | _ =>
      rw [Field.nextEntry?, shape] at grows
      cases grows

/-- To append without an entry of one's own is to append the schema's next entry. -/
theorem append_eq_appendWith (reaches : schema.whole.Reaches path leaf)
    (grows : leaf.nextEntry? = some entry) (model : Record) :
    append schema model path = appendWith schema model path entry := by
  obtain ⟨route, _, _, _, listed⟩ := listRoute_of_reaches reaches grows
  rw [append, listed]
  simp only [bind, Except.bind, grows]

theorem reaches_of_append (done : append schema model path = .ok next) :
    ∃ leaf entry, schema.whole.Reaches path leaf ∧ leaf.nextEntry? = some entry := by
  have applied : (Part.append path).apply schema model = .ok next := done
  obtain ⟨route, leaf, change, updates⟩ := Part.updates_of_apply applied
  cases updates.changes with
  | append shape grows => exact ⟨leaf, _, ⟨route, updates.leads, updates.along⟩, grows⟩

/-- To append again and again puts as many of the schema's next entries at the end of a list. -/
theorem at?_appends (fresh : schema.isDistinct = true) (reaches : schema.whole.Reaches path leaf)
    (grows : leaf.nextEntry? = some entry) (there : model.at? path = some (.list entries))
    (done : (List.replicate count path).foldlM (append schema) model = .ok last) :
    last.at? path = some (.list (entries ++ List.replicate count entry)) := by
  induction count generalizing model entries with
  | zero =>
      cases done
      rw [List.replicate_zero, List.append_nil]
      exact there
  | succ count ih =>
      rw [List.replicate_succ, List.foldlM_cons] at done
      obtain ⟨reached, first, further⟩ := bind_eq_ok_iff.mp done
      rw [append_eq_appendWith reaches grows] at first
      obtain ⟨others, source, grown⟩ := appendWith_entries fresh first
      obtain found | ⟨missing, _⟩ := source
      · cases there.symm.trans found
        rw [List.replicate_succ, List.append_cons]
        exact ih grown further
      · rw [there] at missing
        cases missing

/-- To append an entry leaves the entries of its list at their positions and adds the entry behind
them, also where the list comes into being as a blank one. Nothing beside the list changes, but that
records on the way to it come into being. Without an entry of one's own it is the schema's next one
that is added, and a run of such appends adds as many equal entries. -/
theorem appends_only (schema : Schema) (model : Record) (path : Path)
    (fresh : schema.isDistinct = true) :
    (∀ entry next, appendWith schema model path entry = .ok next →
      (∃ entries, EntriesAt schema model path entries ∧
        next.at? path = some (.list (entries ++ [entry]))) ∧
      ∀ other, path.Apart other →
        (∀ held, model.at? other = some held → next.at? other = some held) ∧
        ∀ held, model.at? other = none → next.at? other = some held →
          (Value.record model).FilledIn schema.whole path other (some held)) ∧
    (∀ leaf entry, schema.whole.Reaches path leaf → leaf.nextEntry? = some entry →
      append schema model path = appendWith schema model path entry) ∧
    ∀ count last, 0 < count →
      (List.replicate count path).foldlM (append schema) model = .ok last →
      ∃ leaf entry entries, schema.whole.Reaches path leaf ∧ leaf.nextEntry? = some entry ∧
        EntriesAt schema model path entries ∧
        last.at? path = some (.list (entries ++ List.replicate count entry)) := by
  refine ⟨fun entry next done => ⟨appendWith_entries fresh done, fun other apart => ?_⟩,
    fun leaf entry reaches grows => append_eq_appendWith reaches grows model,
    fun count last some done => ?_⟩
  · have applied : (Part.appendWith path entry).apply schema model = .ok next := done
    refine ⟨fun held there => Part.at?_apply_of_at? applied apart there,
      fun held missing there => ?_⟩
    obtain same | ⟨_, filled⟩ := Part.at?_apply applied apart
    · rw [same, missing] at there
      cases there
    · rw [there] at filled
      exact filled
  · obtain ⟨more, rfl⟩ := Nat.exists_eq_add_one.mpr some
    rw [List.replicate_succ, List.foldlM_cons] at done
    obtain ⟨reached, first, further⟩ := bind_eq_ok_iff.mp done
    obtain ⟨leaf, entry, reaches, grows⟩ := reaches_of_append first
    rw [append_eq_appendWith reaches grows] at first
    obtain ⟨entries, source, grown⟩ := appendWith_entries fresh first
    refine ⟨leaf, entry, entries, reaches, grows, source, ?_⟩
    rw [List.replicate_succ, List.append_cons]
    exact at?_appends fresh reaches grows grown further

/-- A policy with one rule, whose source tells packets apart by the subscribers given. -/
def subscriberRule (imsis : List Value) : Record :=
  [("name", .text "p"), ("traffic_rules", .list [.record
    [("priority", .int 1), ("source", .record [("description", .text ""),
      ("gtp_filter", .record [("address", .text ""), ("imsis", .list imsis)])])]])]

/-- The subscribers of a filter that is missing together with its source: the first of them becomes
the only one, and two more come behind it. -/
theorem bareRule_appends :
    let imsis := rulePath ["source", "gtp_filter", "imsis"]
    ∃ next last entry, appendWith .trafficPolicy bareRule imsis (.text "001") = .ok next ∧
      next.at? (rulePath ["priority"]) = some (.int 1) ∧
      (List.replicate 2 imsis).foldlM (append .trafficPolicy) next = .ok last ∧
      last.at? imsis = some (.list [.text "001", entry, entry]) := by
  intro imsis
  have distinct : Schema.trafficPolicy.isDistinct = true := by decide
  have done : appendWith .trafficPolicy bareRule imsis (.text "001") =
      .ok (subscriberRule [.text "001"]) := rfl
  have grown : (List.replicate 2 imsis).foldlM (append .trafficPolicy)
      (subscriberRule [.text "001"]) = .ok (subscriberRule [.text "001", .text "", .text ""]) := rfl
  have beside := ((appends_only _ _ _ distinct).1 _ _ done).2 (rulePath ["priority"]) (by decide)
  obtain ⟨leaf, entry, entries, _, _, source, last⟩ :=
    (appends_only _ _ _ distinct).2.2 2 _ (by decide) grown
  refine ⟨_, _, entry, done, beside.1 _ rfl, grown, ?_⟩
  obtain there | ⟨never, _⟩ := source
  · cases there
    exact last
  · cases never

end Record

end ResourceEditor
