import ResourceEditor.Proofs.Edit.Appending
/-
This file says what becomes of a form when a value is put at the end of a route that can go through
the next entry of a list. To append the entry that the form lacks first changes nothing of this.
-/

namespace ResourceEditor

namespace Field

variable {field leaf : Field} {route front rest : Route} {segment : Segment}

theorem Leads.split (leads : field.Leads (front ++ rest) leaf) :
    ∃ middle, field.Leads front middle ∧ middle.Leads rest leaf := by
  induction front generalizing field with
  | nil => exact ⟨field, .here field, leads⟩
  | cons step front ih =>
      cases leads with
      | step first others =>
          obtain ⟨middle, before, after⟩ := ih others
          exact ⟨middle, .step first before, after⟩

/-- A position on a route follows a list. -/
theorem Leads.split_index {item : Field} {position : Nat}
    (leads : field.Leads (front ++ (.index position, item) :: rest) leaf) :
    ∃ list dynamic, field.Leads front list ∧ list.shape = .list item dynamic := by
  obtain ⟨list, before, after⟩ := leads.split
  cases after with
  | step first _ =>
      cases first with
      | entry shape => exact ⟨list, _, before, shape⟩

/-- The entries of a list below a value: those that are there, or, if nothing is there, those of the
blank list. -/
def EntriesAt (field : Field) (value : Value) (path : Path) (entries : List Value) : Prop :=
  value.at? path = some (.list entries) ∨
    value.at? path = none ∧ ∃ leaf, field.Reaches path leaf ∧ leaf.blankEntry = .list entries

/-- A list in a fresh value is blank, whether the value has it or not. -/
theorem EntriesAt.of_startEntry {item : Field} {start : Start} {entries : List Value}
    {position : Nat} (fresh : field.isDistinct = true)
    (leads : field.Leads (front ++ (.index position, item) :: rest) leaf)
    (source : field.EntriesAt (field.startEntry start) (front.map Prod.fst) entries) :
    ∃ list, field.Reaches (front.map Prod.fst) list ∧ list.blankEntry = .list entries := by
  obtain there | ⟨_, blank⟩ := source
  · obtain ⟨list, dynamic, before, shape⟩ := leads.split_index
    exact ⟨list, ⟨front, before, rfl⟩, (before.at?_startEntry fresh shape there).symm⟩
  · exact blank

/-- A list grows by a fresh value of the field that its positions lead to. -/
theorem startEntry_of_nextEntry? {item : Field} {entry : Value} {position : Nat}
    (step : field.Step (.index position) item) (grows : field.nextEntry? = some entry) :
    ∃ start, entry = item.startEntry start := by
  cases step with
  | entry shape =>
      obtain ⟨start, next⟩ := nextEntry?_eq shape
      exact ⟨start, Option.some.inj (grows.symm.trans next)⟩

/-- The entries of a list below a step are those of the list in what is there, or, if nothing is
there, in a fresh value. -/
theorem EntriesAt.of_step {next item : Field} {value below : Value} {entries : List Value}
    {position : Nat} (step : field.Step segment next) (fresh : field.isDistinct = true)
    (leads : next.Leads (front ++ (.index position, item) :: rest) leaf)
    (source : next.EntriesAt below (front.map Prod.fst) entries)
    (origin : value.step? segment = some below ∨
      value.step? segment = none ∧ ∃ start, below = next.startEntry start) :
    field.EntriesAt value (segment :: front.map Prod.fst) entries := by
  rw [EntriesAt, Value.at?_cons]
  obtain there | ⟨gone, start, rfl⟩ := origin
  · rw [there, Option.bind_some]
    refine source.imp_right fun ⟨missing, list, reaches, blank⟩ => ?_
    exact ⟨missing, list, reaches.step step, blank⟩
  · rw [gone]
    obtain ⟨list, reaches, blank⟩ := source.of_startEntry (step.isDistinct fresh) leads
    exact .inr ⟨rfl, list, reaches.step step, blank⟩

end Field

namespace Value

/-- What comes out when a value is put at the end of a route. A list that ends where the route goes
on gets its next entry first. -/
inductive Fills (new : Value) : Field → Value → Route → Value → Prop where
  | here (field : Field) (value : Value) : Fills new field value [] new
  | step {field next : Field} {value below inner : Value} {segment : Segment} {rest : Route}
      (enters : value.Enters segment next below) (inside : Fills new next below rest inner) :
      Fills new field value ((segment, next) :: rest) (value.put segment inner)
  | grow {field item : Field} {entries : List Value} {entry inner : Value} {rest : Route}
      (grows : field.nextEntry? = some entry) (inside : Fills new item entry rest inner) :
      Fills new field (.list entries) ((.index entries.length, item) :: rest)
        (.list (entries ++ [inner]))

/-- A route can be gone from a value: there is a record for each name and a list for each position,
and no position is behind the end of its list. A member that is missing counts as the blank value of
its field, and at the end of a list the route goes through the next entry of the list. -/
inductive Takes : Field → Value → Route → Prop where
  | here (field : Field) (value : Value) : Takes field value []
  | member {field next : Field} {members : Record} {name : String} {rest : Route}
      (others : Takes next ((Members.get? members name).getD next.blankEntry) rest) :
      Takes field (.record members) ((.field name, next) :: rest)
  | entry {field item : Field} {entries : List Value} {below : Value} {position : Nat}
      {rest : Route} (within : position ≤ entries.length)
      (there : entries[position]?.or field.nextEntry? = some below)
      (others : Takes item below rest) :
      Takes field (.list entries) ((.index position, item) :: rest)

variable {field next leaf item : Field} {value below inner new result grown held : Value}
  {entries : List Value} {entry : Value} {segment : Segment} {front rest route : Route}
  {place path : Path} {error : EditError}

/-- A route that can be gone is one at whose end a value can be put. -/
theorem takes_iff (new : Value) :
    Takes field value route ↔ ∃ result, Fills new field value route result := by
  constructor
  · intro takes
    induction takes with
    | here field value => exact ⟨new, .here field value⟩
    | @member field next members name rest others ih =>
        obtain ⟨inner, inside⟩ := ih
        exact ⟨_, .step (.member members name next) inside⟩
    | @entry field item entries below position rest within there others ih =>
        obtain ⟨inner, inside⟩ := ih
        rcases Nat.lt_or_eq_of_le within with before | rfl
        · rw [List.getElem?_eq_getElem before, Option.some_or, Option.some.injEq] at there
          have held : entries[position]? = some below := by
            rw [List.getElem?_eq_getElem before, there]
          exact ⟨_, .step (.entry item held) inside⟩
        · rw [List.getElem?_eq_none (Nat.le_refl _), Option.none_or] at there
          exact ⟨_, .grow there inside⟩
  · rintro ⟨result, fills⟩
    induction fills with
    | here field value => exact .here field value
    | step enters inside ih =>
        cases enters with
        | member => exact .member ih
        | entry item there =>
            have before := (List.getElem?_eq_some_iff.mp there).1
            refine .entry (Nat.le_of_lt before) ?_ ih
            rw [there, Option.some_or]
    | grow grows inside ih =>
        refine .entry (Nat.le_refl _) ?_ ih
        rw [List.getElem?_eq_none (Nat.le_refl _), Option.none_or]
        exact grows

theorem not_enters_end : ¬ (list entries).Enters (.index entries.length) field below := by
  intro enters
  cases enters with
  | entry _ there =>
      rw [List.getElem?_eq_none (Nat.le_refl _)] at there
      cases there

/-- Where a step enters a value, what comes out is put in its place. -/
theorem fills_iff_of_enters (enters : value.Enters segment next below) :
    Fills new field value ((segment, next) :: rest) result ↔
      ∃ inner, Fills new next below rest inner ∧ result = value.put segment inner := by
  constructor
  · intro fills
    cases fills with
    | step again inside =>
        cases enters.unique again
        exact ⟨_, inside, rfl⟩
    | grow grows inside => exact absurd enters not_enters_end
  · rintro ⟨inner, inside, rfl⟩
    exact .step enters inside

/-- What a list becomes at its end is what comes out of its next entry. -/
theorem fills_iff_of_end (grows : field.nextEntry? = some entry) :
    Fills new field (.list entries) ((.index entries.length, item) :: rest) result ↔
      ∃ inner, Fills new item entry rest inner ∧ result = .list (entries ++ [inner]) := by
  constructor
  · intro fills
    cases fills with
    | step enters inside => exact absurd enters not_enters_end
    | grow again inside =>
        cases grows.symm.trans again
        exact ⟨_, inside, rfl⟩
  · rintro ⟨inner, inside, rfl⟩
    exact .grow grows inside

theorem fills_of_update (updated : value.update (fun _ => .ok new) place route = .ok result) :
    Fills new field value route result := by
  induction route generalizing field value place result with
  | nil =>
      cases updated
      exact .here field value
  | cons step rest ih =>
      obtain ⟨segment, next⟩ := step
      obtain ⟨below, inner, enters, inside, rfl⟩ := update_step_iff.mp updated
      exact .step enters (ih inside)

/-- Where an edit stops for something else than a next entry, no value can be put. -/
theorem not_fills_of_stops (meets : value.Meets front held) (stops : held.Stops place segment error)
    (other : ∀ length, error ≠ .indexOutOfRange place length length) :
    ¬ Fills new field value (front ++ (segment, next) :: rest) result := by
  induction meets generalizing field result with
  | here value =>
      intro fills
      cases fills with
      | step enters inside => exact enters.not_stops stops
      | grow grows inside =>
          cases stops with
          | noList shape => exact shape _ rfl
          | tooShort short => exact other _ rfl
  | step enters others ih =>
      intro fills
      obtain ⟨inner, inside, -⟩ := (fills_iff_of_enters enters).mp fills
      exact ih stops inside

/-- Once a list has got its next entry, a route through this entry leads to the same. -/
theorem fills_push_iff (leads : field.Leads front leaf) (grows : leaf.nextEntry? = some entry)
    (meets : value.Meets front (.list entries))
    (pushed : value.update (Record.push path entry) place front = .ok grown) :
    Fills new field grown (front ++ (.index entries.length, item) :: rest) result ↔
      Fills new field value (front ++ (.index entries.length, item) :: rest) result := by
  induction leads generalizing value place grown result with
  | here field =>
      cases meets with
      | here =>
          obtain rfl : .list (entries ++ [entry]) = grown := Except.ok.inj pushed
          have there : (Value.list (entries ++ [entry])).Enters (.index entries.length) item
              entry := .entry item List.getElem?_concat_length
          rw [List.nil_append, fills_iff_of_enters there, fills_iff_of_end grows]
          simp [put]
  | step first others ih =>
      cases meets with
      | step enters further =>
          obtain ⟨_, inner, again, inside, rfl⟩ := update_step_iff.mp pushed
          cases enters.unique again
          rw [List.cons_append, fills_iff_of_enters enters,
            fills_iff_of_enters (enters.put_self inner)]
          simp only [put_put, ih grows further inside]

theorem Enters.step?_or_fresh (enters : value.Enters segment next below) :
    value.step? segment = some below ∨
      value.step? segment = none ∧ ∃ start, below = next.startEntry start := by
  cases enters with
  | member members name =>
      rw [step?_record]
      cases Members.get? members name with
      | none => exact .inr ⟨rfl, .blank, rfl⟩
      | some old => exact .inl rfl
  | entry item there => exact .inl there

theorem Enters.step?_put (enters : value.Enters segment next below) (inner : Value) :
    (value.put segment inner).step? segment = some inner := by
  cases enters with
  | member members name =>
      rw [put, step?_record, Members.get?_set, if_pos rfl]
  | entry item there =>
      rw [put, step?_list, List.getElem?_set_self (List.getElem?_eq_some_iff.mp there).1]

/-- Every list on the way is as long as it was, or just long enough for the position that the route
goes through. -/
theorem Fills.lengths (fills : Fills new field value route result) (leads : field.Leads route leaf)
    (fresh : field.isDistinct = true) {position : Nat}
    (split : route = front ++ (.index position, item) :: rest) :
    ∃ old entries, field.EntriesAt value (front.map Prod.fst) old ∧
      result.at? (front.map Prod.fst) = some (.list entries) ∧
      entries.length = max old.length (position + 1) := by
  induction fills generalizing front with
  | here => simp at split
  | @step field next value below inner segment others enters inside ih =>
      cases front with
      | nil =>
          cases split
          obtain ⟨old, rfl, there⟩ := enters_index_iff.mp enters
          have before := (List.getElem?_eq_some_iff.mp there).1
          refine ⟨old, old.set position inner, .inl rfl, rfl, ?_⟩
          rw [List.length_set]
          omega
      | cons first front =>
          cases split
          cases leads with
          | step step further =>
              obtain ⟨old, entries, source, reached, length⟩ :=
                ih further (step.isDistinct fresh) rfl
              refine ⟨old, entries, source.of_step step fresh further enters.step?_or_fresh, ?_,
                length⟩
              rw [List.map_cons, at?_cons, enters.step?_put inner]
              exact reached
  | @grow field _ others entry inner _ grows inside ih =>
      cases front with
      | nil =>
          cases split
          refine ⟨others, _, .inl rfl, rfl, ?_⟩
          rw [List.length_append, List.length_singleton]
          omega
      | cons first front =>
          cases split
          cases leads with
          | step step further =>
              obtain ⟨old, entries, source, reached, length⟩ :=
                ih further (step.isDistinct fresh) rfl
              have gone : (list others).step? (.index others.length) = none :=
                List.getElem?_eq_none (Nat.le_refl _)
              have begins := Field.startEntry_of_nextEntry? step grows
              refine ⟨old, entries, source.of_step step fresh further (.inr ⟨gone, begins⟩), ?_,
                length⟩
              rw [List.map_cons, at?_cons, step?_list, List.getElem?_concat_length]
              exact reached

/-- To push an entry onto a list leaves alone all that the list and its surroundings hold. -/
theorem at?_of_push {other : Path}
    (pushed : value.update (Record.push path entry) place route = .ok grown)
    (notBefore : ¬ other <+: route.map Prod.fst) (there : value.at? other = some held) :
    grown.at? other = some held := by
  induction route generalizing value place grown other with
  | nil =>
      cases value with
      | list entries =>
          cases pushed
          match other, there with
          | [], _ => exact absurd List.nil_prefix notBefore
          | .field name :: below, there => cases there
          | .index position :: below, there =>
              rw [at?_cons, step?_list] at there ⊢
              obtain ⟨inner, held, further⟩ := Option.bind_eq_some_iff.mp there
              have before := (List.getElem?_eq_some_iff.mp held).1
              rw [List.getElem?_append_left before, held]
              exact further
      | _ => cases pushed
  | cons step rest ih =>
      obtain ⟨segment, field⟩ := step
      obtain ⟨below, inside, found, beside⟩ := step?_of_update pushed
      match other with
      | [] => exact absurd List.nil_prefix notBefore
      | head :: tail =>
          rw [at?_cons] at there ⊢
          obtain ⟨inner, first, further⟩ := Option.bind_eq_some_iff.mp there
          by_cases along : head = segment
          · subst along
            rw [List.map_cons, List.prefix_cons_inj] at notBefore
            rw [first, Option.getD_some] at inside
            rw [found]
            exact ih inside notBefore further
          · rw [beside head along, first]
            exact further

theorem meets_of_update {change : Value → Except EditError Value}
    (updated : value.update change place route = .ok result) :
    ∃ held changed, value.Meets route held ∧ change held = .ok changed ∧
      result.Meets route changed := by
  induction route generalizing value place result with
  | nil => exact ⟨value, result, .here value, updated, .here result⟩
  | cons step rest ih =>
      obtain ⟨segment, field⟩ := step
      obtain ⟨below, inner, enters, inside, rfl⟩ := update_step_iff.mp updated
      obtain ⟨held, changed, meets, given, reached⟩ := ih inside
      exact ⟨held, changed, .step enters meets, given, .step (enters.put_self inner) reached⟩

theorem update_of_meets {change : Value → Except EditError Value} {changed : Value}
    (meets : value.Meets route held) (given : change held = .ok changed) (place : Path) :
    ∃ result, value.update change place route = .ok result := by
  induction meets generalizing place with
  | here => exact ⟨changed, given⟩
  | @step _ _ _ segment _ _ first others ih =>
      obtain ⟨inner, updated⟩ := ih given (place ++ [segment])
      exact ⟨_, update_step_iff.mpr ⟨_, inner, first, updated, rfl⟩⟩

end Value

namespace Record

variable {schema : Schema} {model next : Record} {path list other : Path} {raw : String}
  {route front rest : Route} {leaf item : Field} {rule : ScalarRule} {entries : List Value}
  {held : Value} {length : Nat}

/-- A path leads to an editable scalar, and the first thing on it that the form does not have is the
next entry of a list of this length. -/
def LacksEntry (schema : Schema) (model : Record) (path list : Path) (length : Nat) : Prop :=
  ∃ front item rest leaf rule entries,
    (front ++ (.index length, item) :: rest).map Prod.fst = path ∧ front.map Prod.fst = list ∧
    schema.whole.Leads (front ++ (.index length, item) :: rest) leaf ∧
    leaf.shape = .scalar rule ∧ (Value.record model).Meets front (.list entries) ∧
    entries.length = length

theorem setScalar_lacks_iff :
    setScalar schema model path raw = .error (.indexOutOfRange list length length) ↔
      LacksEntry schema model path list length := by
  obtain ⟨error, refuses⟩ | ⟨route, leaf, rule, rfl, some, leads, shape⟩ :=
    refuses_or_leads schema path
  · rw [setScalar_of_refuses refuses model raw]
    refine iff_of_false ?_ ?_
    · intro same
      cases same
      cases refuses with
      | blocks blocks =>
          cases blocks with
          | segment _ _ refuses => cases refuses
    · rintro ⟨front, item, rest, leaf, rule, entries, rfl, rfl, leads, shape, -⟩
      exact not_refuses_of_leads leads (by simp) shape refuses
  · rw [setScalar_eq_error_iff leads some shape]
    constructor
    · rintro ⟨front, segment, item, rest, held, rfl, meets, stops⟩
      cases stops with
      | tooShort short =>
          exact ⟨front, item, rest, leaf, rule, _, rfl, rfl, leads, shape, meets, rfl⟩
    · rintro ⟨front, item, rest, _, _, entries, same, rfl, again, _, meets, rfl⟩
      obtain ⟨rfl, -⟩ := Schema.leads_unique leads some again same
      exact ⟨front, _, item, rest, _, rfl, meets, .tooShort (Nat.le_refl _)⟩

/-- The entry that is lacking can be appended. Then an edit gets as far as to this entry, and what
comes out when a value is put at the end of the path is the same as before. -/
theorem append_of_lacks
    (leads : schema.whole.Leads (front ++ (.index entries.length, item) :: rest) leaf)
    (meets : (Value.record model).Meets front (.list entries)) :
    ∃ next entry, append schema model (front.map Prod.fst) = .ok next ∧
      (Value.record next).Meets (front ++ [(.index entries.length, item)]) entry ∧
      ∀ new result,
        Value.Fills new schema.whole (.record next)
            (front ++ (.index entries.length, item) :: rest) result ↔
          Value.Fills new schema.whole (.record model)
            (front ++ (.index entries.length, item) :: rest) result := by
  obtain ⟨list, dynamic, before, shape⟩ := leads.split_index
  obtain ⟨start, grows⟩ := Field.nextEntry?_eq shape
  obtain ⟨route, again, some, same, listed⟩ := listRoute_of_reaches ⟨front, before, rfl⟩ grows
  obtain ⟨rfl, -⟩ := Schema.leads_unique again some before same.symm
  have pushes : push (front.map Prod.fst) (item.startEntry start) (.list entries) =
      .ok (.list (entries ++ [item.startEntry start])) := rfl
  obtain ⟨result, updated⟩ := Value.update_of_meets meets pushes []
  rw [update_whole model before some] at updated
  obtain ⟨next, appended, rfl⟩ := map_eq_ok_iff.mp updated
  have pushed := update_ok before some appended
  obtain ⟨held, changed, again, given, reached⟩ := Value.meets_of_update pushed
  cases meets.unique again
  obtain rfl : .list (entries ++ [item.startEntry start]) = changed := Except.ok.inj given
  refine ⟨next, item.startEntry start, ?_, reached.snoc (.entry item List.getElem?_concat_length),
    fun new result => Value.fills_push_iff before grows meets pushed⟩
  rw [append_eq model listed shape grows]
  exact appended

/-- To append an entry to a list leaves alone all that the list and its surroundings hold. -/
theorem at?_of_append (done : append schema model list = .ok next) (notBefore : ¬ other <+: list)
    (there : model.at? other = some held) : next.at? other = some held := by
  have applied : (Part.append list).apply schema model = .ok next := done
  obtain ⟨route, leaf, change, updates⟩ := Part.updates_of_apply applied
  have along : route.map Prod.fst = list := updates.along
  have some : other ≠ [] := by
    rintro rfl
    exact notBefore List.nil_prefix
  rw [at?_of_ne_nil _ some] at there ⊢
  cases updates.changes with
  | append shape grows =>
      rw [← along] at notBefore
      exact Value.at?_of_push (updates.update_of_apply applied) notBefore there

end Record

end ResourceEditor
