import ResourceEditor.Proofs.Edit.Composition
import ResourceEditor.Proofs.Edit.Locality
import ResourceEditor.Proofs.Edit.Run
/-
This file shows that edits of places that are apart can be made in any order, and that of two texts
that are set at one place the later stays.
-/

namespace ResourceEditor

namespace Part

variable {schema : Schema} {part first second : Part} {parts others : List Part}
  {route : Route} {leaf : Field} {change : Value → Except EditError Value}
  {model other next left right : Record} {beside : Path} {held : Value}

/-- An edit leaves everything beside its place as it is, or what was missing there is filled in. -/
theorem at?_apply (applied : part.apply schema model = .ok next) (apart : part.path.Apart beside) :
    next.at? beside = model.at? beside ∨ model.at? beside = none ∧
      (Value.record model).FilledIn schema.whole part.path beside (next.at? beside) := by
  obtain ⟨route, leaf, change, updates⟩ := updates_of_apply applied
  have nonempty : beside ≠ [] := by
    rintro rfl
    exact apart.2 List.nil_prefix
  rw [Record.at?_of_ne_nil model nonempty, Record.at?_of_ne_nil next nonempty]
  rw [← updates.along] at apart ⊢
  exact Value.at?_update_beside updates.leads (updates.update_of_apply applied) apart.2 apart.1

/-- What stands beside the place of an edit stays. -/
theorem at?_apply_of_at? (applied : part.apply schema model = .ok next)
    (apart : part.path.Apart beside) (there : model.at? beside = some held) :
    next.at? beside = some held := by
  obtain same | ⟨missing, _⟩ := at?_apply applied apart
  · rw [same, there]
  · rw [there] at missing
    cases missing

/-- An edit does not tell values apart that look the same. -/
theorem Change.agrees (changes : part.Change leaf change) {held found : Value}
    (same : held.Same found) : Value.Agree (change held) (change found) := by
  have pushed (list : Path) (entry : Value) :
      Value.Agree (Record.push list entry held) (Record.push list entry found) := by
    cases same with
    | scalar scalar =>
        cases held with
        | list entries => cases scalar
        | _ => exact .error _
    | record names each => exact .error _
    | list length each => exact .ok (.push (.list length each) entry)
  cases changes with
  | set shape => exact .ok (.refl _)
  | append shape grows => exact pushed _ _
  | appendWith shape fits => exact pushed _ _
  | reset shape => exact .ok (.refl _)

/-- Forms that look the same are edited to such forms, or the edit fails for one reason. -/
theorem apply_agrees (schema : Schema) (part : Part)
    (same : (Value.record model).Same (.record other)) :
    Value.Agree ((part.apply schema model).map .record) ((part.apply schema other).map .record) := by
  obtain ⟨error, refused⟩ | ⟨route, leaf, change, updates⟩ := part.refused_or_updates schema
  · rw [refused, refused]
    exact .error error
  · rw [updates.same, updates.same]
    exact Value.update_agrees (fun _ _ => updates.changes.agrees) [] route same

theorem apply_same (same : (Value.record model).Same (.record other))
    (applied : part.apply schema model = .ok next) :
    ∃ last, part.apply schema other = .ok last ∧ (Value.record next).Same (.record last) := by
  have agree := apply_agrees schema part same
  rw [applied] at agree
  obtain ⟨new, made, alike⟩ := agree.of_ok
  obtain ⟨last, done, rfl⟩ := map_eq_ok_iff.mp made
  exact ⟨last, done, alike⟩

/-- What an edit makes of a value, it can be made on again. -/
theorem Change.again (changes : part.Change leaf change) {held changed : Value}
    (given : change held = .ok changed) : ∃ final, change changed = .ok final := by
  have grown (list : Path) (entry : Value) (pushed : Record.push list entry held = .ok changed) :
      ∃ final, Record.push list entry changed = .ok final := by
    cases held with
    | list entries =>
        cases pushed
        exact ⟨_, rfl⟩
    | _ => cases pushed
  cases changes with
  | set shape => exact ⟨_, rfl⟩
  | append shape grows => exact grown _ _ given
  | appendWith shape fits => exact grown _ _ given
  | reset shape => exact ⟨_, rfl⟩

/-- An edit that was made can be made again. -/
theorem apply_again (applied : part.apply schema model = .ok next) :
    ∃ last, part.apply schema next = .ok last := by
  obtain ⟨route, leaf, change, updates⟩ := updates_of_apply applied
  obtain ⟨held, changed, given, reached⟩ := Value.at?_of_update (updates.update_of_apply applied)
  obtain ⟨final, further⟩ := updates.changes.again given
  obtain ⟨new, updated⟩ := Value.update_isOk_of_at? reached further []
  obtain ⟨last, done, _⟩ := updates.apply_of_update updated
  exact ⟨last, done⟩

/-- Two edits do not get in the way of each other: they are one edit, or of places that are
apart. -/
def Tolerates (first second : Part) : Prop := first = second ∨ first.path.Apart second.path

theorem Tolerates.symm (tolerates : first.Tolerates second) : second.Tolerates first :=
  tolerates.imp Eq.symm Path.Apart.symm

/-- Once one of two edits of places that are apart is made, the other can be made just if it could
be made before, and both orders come to forms that look the same. -/
theorem apply_apart (apart : first.path.Apart second.path)
    (made : first.apply schema model = .ok left) :
    (∀ next, second.apply schema left = .ok next →
      ∃ right, second.apply schema model = .ok right) ∧
    ∀ right, second.apply schema model = .ok right →
      ∃ next last, second.apply schema left = .ok next ∧ first.apply schema right = .ok last ∧
        (Value.record next).Same (.record last) := by
  obtain ⟨route, leaf, change, updates⟩ := updates_of_apply made
  obtain ⟨error, refused⟩ | ⟨other, end_, another, beyond⟩ := second.refused_or_updates schema
  · refine ⟨fun next done => ?_, fun right done => ?_⟩ <;> rw [refused] at done <;> cases done
  · rw [← updates.along, ← beyond.along] at apart
    obtain ⟨back, forth⟩ := Value.update_apart another updates.leads beyond.leads apart
      (updates.update_of_apply made)
    constructor
    · intro next done
      obtain ⟨new, updated⟩ := back _ (beyond.update_of_apply done)
      obtain ⟨right, there, _⟩ := beyond.apply_of_update updated
      exact ⟨right, there⟩
    · intro right done
      obtain ⟨new, final, one, two, same⟩ := forth _ (beyond.update_of_apply done)
      obtain ⟨next, there, rfl⟩ := beyond.apply_of_update one
      obtain ⟨last, here, rfl⟩ := updates.apply_of_update two
      exact ⟨next, last, there, here, same⟩

namespace Tolerates

/-- Once an edit is made, one that it tolerates can be made just if it could be made before. -/
theorem isOk_iff (tolerates : first.Tolerates second)
    (made : first.apply schema model = .ok left) :
    (∃ next, second.apply schema left = .ok next) ↔
      ∃ right, second.apply schema model = .ok right := by
  obtain rfl | apart := tolerates
  · exact ⟨fun _ => ⟨left, made⟩, fun _ => apply_again made⟩
  · obtain ⟨back, forth⟩ := apply_apart apart made
    constructor
    · rintro ⟨next, done⟩
      exact back next done
    · rintro ⟨right, done⟩
      obtain ⟨next, _, there, _⟩ := forth right done
      exact ⟨next, there⟩

/-- Two edits that tolerate each other can be made in either order. -/
theorem swap (tolerates : first.Tolerates second)
    (one : first.apply schema model = .ok left) (two : second.apply schema left = .ok next) :
    ∃ right last, second.apply schema model = .ok right ∧ first.apply schema right = .ok last ∧
      (Value.record next).Same (.record last) := by
  obtain rfl | apart := tolerates
  · exact ⟨left, next, one, two, .refl _⟩
  · obtain ⟨back, forth⟩ := apply_apart apart one
    obtain ⟨right, there⟩ := back next two
    obtain ⟨again, last, same, here, alike⟩ := forth right there
    rw [two, Except.ok.injEq] at same
    subst same
    exact ⟨right, last, there, here, alike⟩

end Tolerates

theorem foldlM_cons_ok :
    (part :: parts).foldlM (apply schema) model = .ok next ↔
      ∃ reached, part.apply schema model = .ok reached ∧
        parts.foldlM (apply schema) reached = .ok next := by
  rw [List.foldlM_cons]
  exact bind_eq_ok_iff

theorem foldlM_same (same : (Value.record model).Same (.record other))
    (done : parts.foldlM (apply schema) model = .ok next) :
    ∃ last, parts.foldlM (apply schema) other = .ok last ∧
      (Value.record next).Same (.record last) := by
  induction parts generalizing model other with
  | nil =>
      cases done
      exact ⟨other, rfl, same⟩
  | cons part rest ih =>
      obtain ⟨reached, first, further⟩ := foldlM_cons_ok.mp done
      obtain ⟨found, again, alike⟩ := apply_same same first
      obtain ⟨last, others, final⟩ := ih alike further
      exact ⟨last, foldlM_cons_ok.mpr ⟨found, again, others⟩, final⟩

/-- Edits that tolerate each other can be made in any order. -/
theorem foldlM_perm (perm : parts.Perm others) (tolerant : parts.Pairwise Tolerates)
    (done : parts.foldlM (apply schema) model = .ok next) :
    ∃ last, others.foldlM (apply schema) model = .ok last ∧
      (Value.record next).Same (.record last) := by
  induction perm generalizing model next with
  | nil => exact ⟨next, done, .refl _⟩
  | cons part _ ih =>
      obtain ⟨reached, first, further⟩ := foldlM_cons_ok.mp done
      obtain ⟨last, others, same⟩ := ih (List.pairwise_cons.mp tolerant).2 further
      exact ⟨last, foldlM_cons_ok.mpr ⟨reached, first, others⟩, same⟩
  | swap first second rest =>
      -- the forms after the two only look the same, which is enough for the rest
      obtain ⟨left, one, further⟩ := foldlM_cons_ok.mp done
      obtain ⟨between, two, later⟩ := foldlM_cons_ok.mp further
      have tolerates := (List.pairwise_cons.mp tolerant).1 first List.mem_cons_self
      obtain ⟨right, swapped, there, here, alike⟩ := tolerates.swap one two
      obtain ⟨last, others, same⟩ := foldlM_same alike later
      exact ⟨last, foldlM_cons_ok.mpr ⟨right, there, foldlM_cons_ok.mpr ⟨swapped, here, others⟩⟩,
        same⟩
  | trans perm _ earlier later =>
      obtain ⟨between, done, same⟩ := earlier tolerant done
      have stillTolerant := perm.pairwise tolerant fun tolerates => tolerates.symm
      obtain ⟨last, others, alike⟩ := later stillTolerant done
      exact ⟨last, others, same.trans alike⟩

/-- Edits that tolerate each other can be made one after the other just if each of them can be made
alone. -/
theorem foldlM_isOk_iff (tolerant : parts.Pairwise Tolerates) :
    (∃ next, parts.foldlM (apply schema) model = .ok next) ↔
      ∀ part ∈ parts, ∃ next, part.apply schema model = .ok next := by
  induction parts generalizing model with
  | nil => exact ⟨fun _ _ never => (nomatch never), fun _ => ⟨model, rfl⟩⟩
  | cons part rest ih =>
      obtain ⟨tolerates, others⟩ := List.pairwise_cons.mp tolerant
      constructor
      · rintro ⟨next, done⟩
        obtain ⟨reached, first, further⟩ := foldlM_cons_ok.mp done
        have each := (ih others).mp ⟨next, further⟩
        refine List.forall_mem_cons.mpr ⟨⟨reached, first⟩, fun another member => ?_⟩
        exact ((tolerates another member).isOk_iff first).mp (each another member)
      · intro each
        obtain ⟨⟨reached, first⟩, later⟩ := List.forall_mem_cons.mp each
        obtain ⟨next, done⟩ := (ih others).mpr fun another member =>
          ((tolerates another member).isOk_iff first).mpr (later another member)
        exact ⟨next, foldlM_cons_ok.mpr ⟨reached, first, done⟩⟩

theorem isDistinct_push {list : Path} {entry held changed : Value}
    (fresh : entry.isDistinct = true) (distinct : held.isDistinct = true)
    (grown : Record.push list entry held = .ok changed) : changed.isDistinct = true := by
  cases held with
  | list entries =>
      cases grown
      have each := (Value.isDistinct_list entries).mp distinct
      exact (Value.isDistinct_list _).mpr (List.forall_mem_append.mpr
        ⟨each, List.forall_mem_singleton.mpr fresh⟩)
  | _ => cases grown

theorem isDistinct_nextEntry {entry : Value} (fresh : leaf.isDistinct = true)
    (grows : leaf.nextEntry? = some entry) : entry.isDistinct = true := by
  rw [Field.isDistinct_eq] at fresh
  cases shape : leaf.shape with
  | list item dynamic =>
      rw [shape] at fresh
      obtain ⟨start, next⟩ := Field.nextEntry?_eq shape
      rw [next, Option.some.injEq] at grows
      subst grows
      exact ((item.startsTyped upheld_isOwn fresh).entry start).isDistinct
  | _ =>
      rw [Field.nextEntry?, shape] at grows
      cases grows

theorem isDistinct_read (rule : ScalarRule) (raw : String) :
    (rule.read raw).isDistinct = true := by
  rw [ScalarRule.read]
  cases rule.kind <;> rfl

/-- An edit brings no two members of one name into a record, unless an entry does that it brings
along. -/
theorem isDistinct_apply (fresh : schema.isDistinct = true)
    (own : ∀ list entry, part = .appendWith list entry → entry.isDistinct = true)
    (distinct : model.isDistinct = true) (applied : part.apply schema model = .ok next) :
    next.isDistinct = true := by
  obtain ⟨route, leaf, change, updates⟩ := updates_of_apply applied
  have inner : leaf.isDistinct = true := updates.leads.isDistinct fresh
  refine Value.isDistinct_update updates.leads fresh (fun held changed before given => ?_) distinct
    (updates.update_of_apply applied)
  cases updates.changes with
  | set shape =>
      cases given
      exact isDistinct_read _ _
  | append shape grows => exact isDistinct_push (isDistinct_nextEntry inner grows) before given
  | appendWith shape fits => exact isDistinct_push (own _ _ rfl) before given
  | reset shape =>
      cases given
      refine (Value.isDistinct_list _).mpr fun entry member => ?_
      exact isDistinct_nextEntry inner (Option.mem_toList.mp member)

end Part

namespace Record

variable {schema : Schema} {model left next : Record} {path other : Path} {raw text : String}

theorem equals_of_same {one two : Record} (distinct : one.isDistinct = true)
    (also : two.isDistinct = true) (same : (Value.record one).Same (.record two)) :
    one.equals two = true :=
  (Value.equals_iff_same distinct also).mpr same

theorem isDistinct_setScalar (fresh : schema.isDistinct = true)
    (distinct : model.isDistinct = true) (done : setScalar schema model path raw = .ok next) :
    next.isDistinct = true := by
  have applied : (Part.set path raw).apply schema model = .ok next := done
  exact Part.isDistinct_apply fresh (fun _ _ => Part.noConfusion) distinct applied

/-- Two scalars that are set in one order can be set in the other one. -/
theorem setScalar_swap (fresh : schema.isDistinct = true) (distinct : model.isDistinct = true)
    (apart : path.Apart other) (one : setScalar schema model path raw = .ok left)
    (two : setScalar schema left other text = .ok next) :
    ∃ right last, setScalar schema model other text = .ok right ∧
      setScalar schema right path raw = .ok last ∧ next.equals last = true := by
  have tolerates : (Part.set path raw).Tolerates (.set other text) := .inr apart
  obtain ⟨right, last, there, here, same⟩ := tolerates.swap one two
  have forth := isDistinct_setScalar fresh (isDistinct_setScalar fresh distinct one) two
  have back := isDistinct_setScalar fresh (isDistinct_setScalar fresh distinct there) here
  exact ⟨right, last, there, here, equals_of_same forth back same⟩

theorem map_record_inj {first second : Except EditError Record}
    (same : first.map Value.record = second.map Value.record) : first = second := by
  cases first <;> cases second <;> cases same <;> rfl

/-- Of two texts that are set at one place the later stays. -/
theorem setScalar_again (schema : Schema) (model : Record) (path : Path) (raw text : String) :
    (do setScalar schema (← setScalar schema model path raw) path text) =
      setScalar schema model path text := by
  obtain ⟨error, refuses⟩ | ⟨route, leaf, rule, rfl, some, leads, shape⟩ :=
    refuses_or_leads schema path
  · rw [setScalar_of_refuses refuses, setScalar_of_refuses refuses]
    rfl
  · have sets (model : Record) (raw : String) := setScalar_of_leads leads some shape model raw
    have both := Value.update_update (fun _ => .ok (rule.read raw)) (fun _ => .ok (rule.read text))
      [] route (.record model)
    rw [← sets model raw] at both
    refine map_record_inj ?_
    rw [sets model text]
    refine Eq.trans ?_ both
    cases setScalar schema model (route.map Prod.fst) raw with
    | error error => rfl
    | ok next => exact sets next text

/-- Setting one place and then one apart from it either fails in both orders, or comes to equal
forms, whatever the edits fill in on their ways. Of two texts that are set at one place the later
stays, as if the earlier had never been set. -/
theorem setScalar_commutes (schema : Schema) (model : Record) (path other : Path)
    (raw text : String) (fresh : schema.isDistinct = true) (distinct : model.isDistinct = true) :
    (path.Apart other →
      let forth := do setScalar schema (← setScalar schema model path raw) other text
      let back := do setScalar schema (← setScalar schema model other text) path raw
      (∃ error reason, forth = .error error ∧ back = .error reason) ∨
        ∃ one two, forth = .ok one ∧ back = .ok two ∧ one.equals two = true) ∧
    (do setScalar schema (← setScalar schema model path raw) path text) =
      setScalar schema model path text := by
  refine ⟨fun apart => ?_, setScalar_again schema model path raw text⟩
  intro forth back
  cases there : forth with
  | ok next =>
      obtain ⟨left, one, two⟩ := bind_eq_ok_iff.mp there
      obtain ⟨right, last, first, second, equal⟩ := setScalar_swap fresh distinct apart one two
      exact .inr ⟨next, last, rfl, bind_eq_ok_iff.mpr ⟨right, first, second⟩, equal⟩
  | error error =>
      cases here : back with
      | error reason => exact .inl ⟨error, reason, rfl, rfl⟩
      | ok last =>
          obtain ⟨right, one, two⟩ := bind_eq_ok_iff.mp here
          obtain ⟨left, next, first, second, _⟩ :=
            setScalar_swap fresh distinct apart.symm one two
          have never : forth = .ok next := bind_eq_ok_iff.mpr ⟨left, first, second⟩
          rw [there] at never
          cases never

/-- The masks of two filters, which are both missing together with their source, are set in either
order. -/
theorem bareRule_masks_commute :
    let ip := rulePath ["source", "ip_filter", "mask"]
    let gtp := rulePath ["source", "gtp_filter", "mask"]
    ∃ one two,
      (do setScalar .trafficPolicy (← setScalar .trafficPolicy bareRule ip "24") gtp "32") =
        .ok one ∧
      (do setScalar .trafficPolicy (← setScalar .trafficPolicy bareRule gtp "32") ip "24") =
        .ok two ∧ one.equals two = true := by
  intro ip gtp
  have distinct : Schema.trafficPolicy.isDistinct = true := by decide
  have maps : bareRule.isDistinct = true := by decide
  have apart : ip.Apart gtp := by decide
  obtain ⟨error, _, failed, _⟩ | both :=
    (setScalar_commutes .trafficPolicy bareRule ip gtp "24" "32" distinct maps).1 apart
  · cases failed
  · exact both

end Record

end ResourceEditor
