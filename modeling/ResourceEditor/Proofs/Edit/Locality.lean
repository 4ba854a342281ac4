import ResourceEditor.Proofs.Edit.Part
import ResourceEditor.Proofs.Edit.Update
import ResourceEditor.Schema.Catalog
/-
This file shows that to set a scalar is local. Beside its path nothing changes, but that records and
lists that were missing on the way come into being as blank values.
-/

namespace ResourceEditor

/-- A record or a list on the way to a path is missing in a value, and somewhere inside it is what
the blank value of its field holds there. -/
def Value.FilledIn (field : Field) (value : Value) (path inside : Path) (held : Option Value) :
    Prop :=
  ∃ front name member inner, front ++ [.field name] <+: path ∧
    field.Reaches (front ++ [.field name]) member ∧ member.scalar? = none ∧
    value.at? (front ++ [.field name]) = none ∧ inside = front ++ .field name :: inner ∧
    held = member.blankEntry.at? inner

namespace Value

variable {change : Value → Except EditError Value} {place other path : Path} {route rest : Route}
  {field next leaf : Field} {segment : Segment} {value new below : Value} {held : Option Value}

/-- What is filled in below a step is filled in, whether the value of the step was there or has come
into being. -/
theorem FilledIn.step (first : field.Step segment next)
    (found : ∀ inner, value.step? segment = some inner → inner = below)
    (filled : below.FilledIn next path other held) :
    value.FilledIn field (segment :: path) (segment :: other) held := by
  obtain ⟨front, name, member, inner, onTheWay, reaches, nested, missing, rfl, same⟩ := filled
  refine ⟨segment :: front, name, member, inner, (List.prefix_cons_inj segment).mpr onTheWay,
    reaches.step first, nested, ?_, rfl, same⟩
  rw [List.cons_append, at?_cons]
  cases there : value.step? segment with
  | none => rfl
  | some inner =>
      rw [found inner there]
      exact missing

/-- A step of a change that succeeds fills in a member if it finds nothing. -/
theorem filledIn_missing (first : field.Step segment next) (others : next.Leads rest leaf)
    (updated : value.update change place ((segment, next) :: rest) = .ok new)
    (gone : value.step? segment = none) (notBelow : ¬ rest.map Prod.fst <+: other)
    (blank : held = next.blankEntry.at? other) :
    value.FilledIn field (segment :: rest.map Prod.fst) (segment :: other) held := by
  cases segment with
  | index position =>
      -- entries never come into being
      obtain ⟨entries, old, _, rfl, there, _⟩ := update_entry.mp updated
      rw [step?_list, there] at gone
      cases gone
  | field name =>
      have nested : next.scalar? = none := by
        cases others with
        | here => exact absurd List.nil_prefix notBelow
        | step second _ => exact second.scalar?_eq_none
      refine ⟨[], name, next, other, (List.prefix_cons_inj _).mpr List.nil_prefix,
        .step first ⟨[], .here next, rfl⟩, nested, ?_, rfl, blank⟩
      rw [List.nil_append, at?_cons, gone]
      rfl

/-- Beside its route a change leaves everything as it is, or what was missing there is filled in. -/
theorem at?_update_beside (leads : field.Leads route leaf)
    (updated : value.update change place route = .ok new)
    (notBefore : ¬ other <+: route.map Prod.fst) (notBelow : ¬ route.map Prod.fst <+: other) :
    new.at? other = value.at? other ∨
      value.at? other = none ∧
        value.FilledIn field (route.map Prod.fst) other (new.at? other) := by
  induction leads generalizing value new place other with
  | here => exact absurd List.nil_prefix notBelow
  | @step field next leaf segment rest first others ih =>
      obtain ⟨below, inside, found, beside⟩ := step?_of_update updated
      match other with
      | [] => exact absurd List.nil_prefix notBefore
      | head :: tail =>
          by_cases along : head = segment
          · subst along
            rw [List.map_cons, List.prefix_cons_inj] at notBefore notBelow
            rw [at?_cons, at?_cons, found, Option.bind_some]
            have deeper := ih inside notBefore notBelow
            cases there : value.step? head with
            | some inner =>
                rw [there, Option.getD_some] at deeper
                refine deeper.imp_right fun ⟨absent, filled⟩ => ⟨absent, filled.step first ?_⟩
                intro same held
                exact Option.some.inj (held.symm.trans there)
            | none =>
                rw [there, Option.getD_none] at deeper
                refine .inr ⟨rfl, ?_⟩
                obtain blank | ⟨_, filled⟩ := deeper
                · exact filledIn_missing first others updated there notBelow blank
                · refine filled.step first ?_
                  intro same held
                  cases there.symm.trans held
          · rw [at?_cons, at?_cons, beside head along]
            exact .inl rfl

/-- A change below a record keeps the order of the record's members, and new ones come last. -/
theorem names_update {members : Record} (updated : value.update change place route = .ok new)
    (notBelow : ¬ route.map Prod.fst <+: other)
    (there : value.at? other = some (.record members)) :
    ∃ others, new.at? other = some (.record others) ∧
      Members.names members <+: Members.names others := by
  induction route generalizing value new place other with
  | nil => exact absurd List.nil_prefix notBelow
  | cons step rest ih =>
      obtain ⟨segment, field⟩ := step
      obtain ⟨below, inside, found, beside⟩ := step?_of_update updated
      match other with
      | [] =>
          rw [at?_nil, Option.some.injEq] at there
          subst there
          cases segment with
          | index position =>
              obtain ⟨_, _, _, never, _⟩ := update_entry.mp updated
              cases never
          | field name =>
              obtain ⟨_, below, same, _, rfl⟩ := update_member.mp updated
              cases same
              refine ⟨_, at?_nil _, ?_⟩
              rw [Members.names_set]
              split
              next => exact List.prefix_rfl
              next => exact List.prefix_append ..
      | head :: tail =>
          rw [at?_cons] at there
          obtain ⟨inner, first, further⟩ := Option.bind_eq_some_iff.mp there
          rw [at?_cons]
          by_cases along : head = segment
          · subst along
            rw [List.map_cons, List.prefix_cons_inj] at notBelow
            rw [first, Option.getD_some] at inside
            rw [found]
            exact ih inside notBelow further
          · rw [beside head along, first]
            exact ⟨members, further, List.prefix_rfl⟩

end Value

namespace Record

variable {schema : Schema} {model next : Record} {path : Path} {raw : String}

/-- To set a scalar is to change what stands at the end of a route. -/
theorem update_of_setScalar (done : setScalar schema model path raw = .ok next) :
    ∃ route leaf rule, schema.whole.Leads route leaf ∧ route.map Prod.fst = path ∧ route ≠ [] ∧
      leaf.shape = .scalar rule ∧
      (Value.record model).update (fun _ => .ok (rule.read raw)) [] route = .ok (.record next) := by
  have applied : (Part.set path raw).apply schema model = .ok next := done
  obtain ⟨route, leaf, change, updates⟩ := Part.updates_of_apply applied
  have along : route.map Prod.fst = path := updates.along
  have some : route ≠ [] := by
    rintro rfl
    exact updates.some along.symm
  cases updates.changes with
  | set shape =>
      exact ⟨route, leaf, _, updates.leads, along, some, shape, updates.update_of_apply applied⟩

/-- Setting a scalar gives its field the coerced number or the text as it is. Beside the path what
was there stays, and nothing comes up but inside records and lists that were missing on the way,
which come into being as the schema's blank values. Members keep their order, new ones come last. -/
theorem setScalar_local (schema : Schema) (model next : Record) (path : Path) (raw : String)
    (done : setScalar schema model path raw = .ok next) :
    (∃ leaf rule, schema.whole.Reaches path leaf ∧ leaf.shape = .scalar rule ∧
      next.at? path = some (match rule.kind with
        | .number => .number (Number.coerce raw)
        | .string | .enum => .text raw)) ∧
    (∀ other, ¬ other <+: path → ¬ path <+: other →
      (∀ held, model.at? other = some held → next.at? other = some held) ∧
      (∀ held, model.at? other = none → next.at? other = some held →
        (Value.record model).FilledIn schema.whole path other (some held))) ∧
    ∀ other members, ¬ path <+: other →
      (Value.record model).at? other = some (.record members) →
      ∃ others, (Value.record next).at? other = some (.record others) ∧
        Members.names members <+: Members.names others := by
  obtain ⟨route, leaf, rule, leads, rfl, some, shape, updated⟩ := update_of_setScalar done
  refine ⟨⟨leaf, rule, ⟨route, leads, rfl⟩, shape, ?_⟩, ?_, fun other members notBelow there =>
    Value.names_update updated notBelow there⟩
  · obtain ⟨_, _, same, reached⟩ := Value.at?_of_update updated
    cases same
    rw [at?_of_ne_nil next (by simpa using some), reached, ScalarRule.read]
    cases rule.kind <;> rfl
  · intro other notBefore notBelow
    have nonempty : other ≠ [] := by
      rintro rfl
      exact notBefore List.nil_prefix
    rw [at?_of_ne_nil model nonempty, at?_of_ne_nil next nonempty]
    obtain same | ⟨absent, filled⟩ := Value.at?_update_beside leads updated notBefore notBelow
    · rw [same]
      exact ⟨fun held there => there, fun held absent there => absurd there (by simp [absent])⟩
    · rw [absent]
      exact ⟨fun held there => (nomatch there), fun held _ there => there ▸ filled⟩

/-- A policy with one rule, which has no more than its priority. -/
def bareRule : Record :=
  [("name", .text "p"), ("traffic_rules", .list [.record [("priority", .int 1)]])]

def rulePath (names : List String) : Path :=
  .field "traffic_rules" :: .index 0 :: names.map .field

/-- The mask of a filter that was missing together with its source: the priority stays, and a blank
description comes into being beside the filter. -/
theorem bareRule_setScalar_local :
    ∃ next, setScalar .trafficPolicy bareRule (rulePath ["source", "ip_filter", "mask"]) "24.5" =
        .ok next ∧
      next.at? (rulePath ["source", "ip_filter", "mask"]) = some (.int 24) ∧
      next.at? (rulePath ["priority"]) = some (.int 1) ∧
      (Value.record bareRule).FilledIn Schema.trafficPolicy.whole
        (rulePath ["source", "ip_filter", "mask"]) (rulePath ["source", "description"])
        (some (.text "")) := by
  let mask := Number.coerce "24.5"
  have truncated : mask = .int 24 := by decide
  have done : setScalar .trafficPolicy bareRule (rulePath ["source", "ip_filter", "mask"]) "24.5" =
      .ok [("name", .text "p"), ("traffic_rules", .list [.record
        [("priority", .int 1), ("source", .record [("description", .text ""), ("ip_filter", .record
          [("address", .text ""), ("protocol", .text ""), ("mask", .number mask)])])]])] := rfl
  have beside := (setScalar_local _ _ _ _ _ done).2.1
  refine ⟨_, done, congrArg (fun value => some (Value.number value)) truncated, ?_, ?_⟩
  · exact (beside _ (by decide) (by decide)).1 _ rfl
  · exact (beside _ (by decide) (by decide)).2 _ rfl rfl

end Record

end ResourceEditor
