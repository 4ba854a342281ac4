import ResourceEditor.Command.Assignment
import ResourceEditor.Proofs.Edit.Filling
/-
This file follows a form through the appends that an edit of a place needs first. Each of them gives
the next entry to a list that is further along the path than the one before, and what comes out in
the end is the same with and without it.
-/

namespace ResourceEditor

namespace Record

open Editing

/-- The lists that get their next entry, one after the other, until the form lacks no such entry any
more. -/
inductive Extends (schema : Schema) (path : Path) : Record → List Path → Record → Prop where
  | done {model : Record} (full : ∀ list length, ¬ LacksEntry schema model path list length) :
      Extends schema path model [] model
  | grow {model next last : Record} {list : Path} {lists : List Path} {length : Nat}
      (lacks : LacksEntry schema model path list length)
      (appended : append schema model list = .ok next)
      (others : Extends schema path next lists last) :
      Extends schema path model (list :: lists) last

variable {schema : Schema} {model grown next : Record} {path other : Path} {raw : String}
  {route front rest : Route} {leaf : Field} {rule : ScalarRule} {held new result : Value}
  {lists : List Path}

theorem listCount_append (front rest : Path) :
    listCount (front ++ rest) = listCount front + listCount rest :=
  List.countP_append

theorem listCount_cons_index (position : Nat) (rest : Path) :
    listCount (.index position :: rest) = listCount rest + 1 :=
  List.countP_cons_of_pos rfl

/-- The first entry that is lacking lies further along the path than all that an edit gets to. -/
theorem split_of_lacks {item : Field} {entries : List Value} {before after : Route}
    (meets : (Value.record model).Meets front held)
    (lacks : (Value.record model).Meets before (.list entries))
    (same : before ++ (.index entries.length, item) :: after = front ++ rest) :
    ∃ between, rest = between ++ (.index entries.length, item) :: after := by
  obtain ⟨between, rfl, split⟩ | ⟨between, rfl, split⟩ := List.append_eq_append_iff.mp same
  · cases between with
    | nil => exact ⟨[], split.symm⟩
    | cons step between =>
        cases split
        obtain ⟨below, there, further⟩ := meets.split
        cases lacks.unique there
        cases further with
        | step enters _ => exact absurd enters Value.not_enters_end
  · exact ⟨between, split⟩

theorem exists_extends_of_leads (leads : schema.whole.Leads route leaf)
    (split : route = front ++ rest)
    (meets : (Value.record model).Meets front held) :
    ∃ lists grown, Extends schema (route.map Prod.fst) model lists grown ∧
      lists.length ≤ listCount (rest.map Prod.fst) := by
  induction size : listCount (rest.map Prod.fst) using Nat.strongRecOn
    generalizing model front rest held with
  | ind count ih =>
      by_cases lacks : ∃ list length, LacksEntry schema model (route.map Prod.fst) list length
      case neg =>
        refine ⟨[], model, .done fun list length here => lacks ⟨list, length, here⟩, ?_⟩
        exact Nat.zero_le _
      obtain ⟨list, length, lacks⟩ := lacks
      obtain ⟨before, item, after, _, _, entries, same, found, again, _, stops, total⟩ := id lacks
      subst found total
      obtain ⟨rfl, rfl⟩ := Schema.leads_unique again (by simp) leads same.symm
      obtain ⟨between, rfl⟩ := split_of_lacks meets stops split
      obtain ⟨next, entry, appended, reached, -⟩ := append_of_lacks leads stops
      -- the next round starts behind the position whose entry is there now
      have fewer : listCount (after.map Prod.fst) < count := by
        rw [← size, List.map_append, listCount_append, List.map_cons, listCount_cons_index]
        omega
      obtain ⟨lists, grown, extension, few⟩ :=
        ih _ fewer (List.append_cons before _ after) reached rfl
      exact ⟨_, grown, .grow lacks appended extension, Nat.lt_of_le_of_lt few fewer⟩

/-- There are no more appends than the path has positions. -/
theorem exists_extends (schema : Schema) (model : Record) (path : Path) :
    ∃ lists grown, Extends schema path model lists grown ∧ lists.length ≤ listCount path := by
  by_cases lacks : ∃ list length, LacksEntry schema model path list length
  · obtain ⟨_, _, before, item, after, _, _, _, rfl, _, leads, _⟩ := lacks
    exact exists_extends_of_leads leads (List.nil_append _).symm (.here _)
  · exact ⟨[], model, .done fun list length here => lacks ⟨list, length, here⟩, Nat.zero_le _⟩

namespace Extends

theorem foldlM_append (extension : Extends schema path model lists grown) :
    lists.foldlM (append schema) model = .ok grown := by
  induction extension with
  | done => rfl
  | grow _ appended _ ih =>
      rw [List.foldlM_cons, appended]
      exact ih

theorem full (extension : Extends schema path model lists grown) (list : Path) (length : Nat) :
    ¬ LacksEntry schema grown path list length := by
  induction extension with
  | done full => exact full list length
  | grow _ _ _ ih => exact ih

/-- Only lists that the path leads through get an entry. -/
theorem entry_prefix (extension : Extends schema path model lists grown) :
    ∀ list ∈ lists, ∃ position, list.entry position <+: path := by
  induction extension with
  | done => exact List.forall_mem_nil _
  | @grow _ _ _ _ _ length lacks _ _ ih =>
      obtain ⟨front, item, rest, _, _, _, rfl, rfl, -⟩ := lacks
      refine List.forall_mem_cons.mpr ⟨⟨length, rest.map Prod.fst, ?_⟩, ih⟩
      rw [List.map_append, List.map_cons, Path.entry, ← List.append_cons]

theorem eq_iff (extension : Extends schema path model lists grown) :
    grown = model ↔ ∀ list length, ¬ LacksEntry schema model path list length := by
  constructor
  · rintro rfl
    exact extension.full
  · intro full
    cases extension with
    | done => rfl
    | grow lacks _ _ => exact absurd lacks (full _ _)

theorem at?_of_at? (extension : Extends schema path model lists grown)
    (notBefore : ¬ other <+: path) (there : model.at? other = some held) :
    grown.at? other = some held := by
  induction extension with
  | done => exact there
  | grow lacks appended _ ih =>
      obtain ⟨front, item, rest, _, _, _, rfl, rfl, -⟩ := lacks
      refine ih (at?_of_append appended (fun before => notBefore ?_) there)
      rw [List.map_append]
      exact before.trans (List.prefix_append _ _)

/-- The appends change nothing of what comes out when a value is put at the end of the path. -/
theorem fills_iff (extension : Extends schema path model lists grown)
    (leads : schema.whole.Leads route leaf) (along : route.map Prod.fst = path) :
    Value.Fills new schema.whole (.record grown) route result ↔
      Value.Fills new schema.whole (.record model) route result := by
  induction extension with
  | done => rfl
  | grow lacks appended _ ih =>
      obtain ⟨front, item, rest, _, _, entries, same, rfl, again, _, stops, rfl⟩ := lacks
      obtain ⟨rfl, rfl⟩ := Schema.leads_unique again (by simp) leads (along.trans same.symm)
      obtain ⟨next, _, done, _, alike⟩ := append_of_lacks leads stops
      cases appended.symm.trans done
      exact ih.trans (alike new result)

theorem fills_of_setScalar (extension : Extends schema (route.map Prod.fst) model lists grown)
    (leads : schema.whole.Leads route leaf) (some : route ≠ []) (shape : leaf.shape = .scalar rule)
    (set : setScalar schema grown (route.map Prod.fst) raw = .ok next) :
    Value.Fills (rule.read raw) schema.whole (.record model) route (.record next) := by
  have updated := setScalar_of_leads leads some shape grown raw
  rw [set] at updated
  exact (extension.fills_iff leads rfl).mp (Value.fills_of_update updated.symm)

/-- The scalar is set in the end just when the path can be gone in the form of the beginning. -/
theorem setScalar_isOk_iff (extension : Extends schema path model lists grown)
    (leads : schema.whole.Leads route leaf) (along : route.map Prod.fst = path) (some : route ≠ [])
    (shape : leaf.shape = .scalar rule) :
    (∃ next, setScalar schema grown path raw = .ok next) ↔
      Value.Takes schema.whole (.record model) route := by
  subst along
  constructor
  · rintro ⟨next, set⟩
    exact (Value.takes_iff _).mpr ⟨_, extension.fills_of_setScalar leads some shape set⟩
  · intro takes
    obtain ⟨result, fills⟩ := (Value.takes_iff (rule.read raw)).mp takes
    have grownFills := (extension.fills_iff leads rfl).mpr fills
    cases set : setScalar schema grown (route.map Prod.fst) raw with
    | ok next => exact ⟨next, rfl⟩
    | error error =>
        obtain ⟨front, segment, field, rest, held, rfl, meets, stops⟩ :=
          (setScalar_eq_error_iff leads some shape).mp set
        refine absurd grownFills (Value.not_fills_of_stops meets stops fun length same => ?_)
        rw [same] at set
        exact absurd (setScalar_lacks_iff.mp set) (extension.full _ _)

/-- Every list on the path is in the end as long as it was in the beginning, or just long enough for
the position on the path. -/
theorem lengths (extension : Extends schema (route.map Prod.fst) model lists grown)
    (fresh : schema.isDistinct = true) (leads : schema.whole.Leads route leaf) (some : route ≠ [])
    (shape : leaf.shape = .scalar rule)
    (set : setScalar schema grown (route.map Prod.fst) raw = .ok next) {list : Path}
    {position : Nat} (onTheWay : list.entry position <+: route.map Prod.fst) :
    ∃ old entries, EntriesAt schema model list old ∧ next.at? list = .some (.list entries) ∧
      entries.length = max old.length (position + 1) := by
  obtain ⟨after, split⟩ := onTheWay
  rw [Path.entry, ← List.append_cons, eq_comm, List.map_eq_append_iff] at split
  obtain ⟨front, rest, rfl, rfl, split⟩ := split
  obtain ⟨⟨_, item⟩, rest, rfl, rfl, rfl⟩ := List.map_eq_cons_iff.mp split
  have first : front.map Prod.fst ≠ [] := by
    intro none
    rw [List.map_eq_nil_iff.mp none] at leads
    cases leads with
    | step first _ =>
        cases first with
        | entry shape => cases shape
  have fills := extension.fills_of_setScalar leads some shape set
  obtain ⟨old, entries, source, reached, length⟩ := fills.lengths leads fresh rfl
  refine ⟨old, entries, ?_, ?_, length⟩
  · rw [EntriesAt, at?_of_ne_nil _ first]
    exact source
  · rw [at?_of_ne_nil _ first]
    exact reached

end Extends

end Record

end ResourceEditor
