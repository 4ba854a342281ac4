import Mathlib.Data.List.Nodup
import ResourceEditor.Toml.Table
/-
This file says what headers and keys with values do to a document that is being built: a table that
is filled with fresh names holds them all in their order.
-/

namespace ResourceEditor

namespace Toml.Draft

/-- Whatever is changed at a path happens inside of the table that a document has there. -/
def Focus (path : List String) (start origin : Origin)
    (around : Members Draft → Members Draft) : Prop :=
  ∀ change inner, descend false change path start (around inner) = (change origin inner).map around

theorem Focus.here (origin : Origin) : Focus [] origin origin id := by
  intro change inner
  rw [descend, Option.map_id, id, id]

theorem Focus.last {before : Members Draft} {name : String} (fresh : name ∉ Members.names before)
    (start : Origin) {path : List String} {between origin : Origin}
    {around : Members Draft → Members Draft} (focus : Focus path between origin around) :
    Focus (name :: path) start origin fun inner =>
      before ++ [(name, .table between (around inner))] := by
  intro change inner
  rw [descend, Members.get?_append_of_not_mem fresh]
  simp only [Bool.false_and, Bool.false_eq_true, if_false, focus change inner, Option.map_map,
    Function.comp_def, Members.set_append_of_not_mem fresh]

theorem descend_append (dotted : Bool)
    (change : Origin → Members Draft → Option (Members Draft)) (path more : List String)
    (start : Origin) (members : Members Draft) :
    descend dotted change (path ++ more) start members =
      descend dotted (descend dotted change more) path start members := by
  induction path generalizing start members with
  | nil => rfl
  | cons name path ih =>
      rw [List.cons_append, descend, descend]
      simp only [ih]

theorem Focus.append {path more : List String} {start between origin : Origin}
    {around within : Members Draft → Members Draft} (focus : Focus path start between around)
    (further : Focus more between origin within) :
    Focus (path ++ more) start origin fun inner => around (within inner) := by
  intro change inner
  rw [descend_append, focus, further, Option.map_map]
  rfl

/-- A table that was not there before is made on the way. -/
theorem descend_fresh {members : Members Draft} {name : String}
    (fresh : name ∉ Members.names members)
    (change : Origin → Members Draft → Option (Members Draft)) (path : List String)
    (start : Origin) :
    descend false change (name :: path) start members =
      (descend false change path .passing []).map fun inner =>
        members ++ [(name, .table .passing inner)] := by
  rw [descend, Members.get?_of_not_mem fresh]
  simp only [Bool.false_eq_true, if_false, Members.set_of_not_mem fresh]

theorem insertTable_fresh {members : Members Draft} {name : String}
    (fresh : name ∉ Members.names members) (origin : Origin) :
    insertTable name origin members = some (members ++ [(name, .table .header [])]) := by
  rw [insertTable, Members.get?_of_not_mem fresh]

theorem insertPair_fresh {members : Members Draft} {name : String}
    (fresh : name ∉ Members.names members) (value : Toml) (origin : Origin) :
    insertPair [name] value origin members = some (members ++ [(name, .leaf value)]) := by
  have missing : members.has name = false := by
    rw [← Bool.not_eq_true, Members.has_iff_mem_names]
    exact fresh
  simp [insertPair, descend, missing]

def leaves (entries : List (String × Toml)) : Members Draft :=
  entries.map fun (name, value) => (name, .leaf value)

/-- A table that is filled line by line holds what the lines say. -/
theorem foldlM_pairs {path : List String} {origin : Origin}
    {around : Members Draft → Members Draft} (focus : Focus path .header origin around)
    (entries : List (String × Toml)) (inner : Members Draft)
    (distinct : (Members.names inner ++ Members.names entries).Nodup) :
    (entries.map fun (name, value) => Statement.pair [name] value).foldlM Sheet.step
        ⟨path, around inner⟩ =
      some ⟨path, around (inner ++ leaves entries)⟩ := by
  induction entries generalizing inner with
  | nil => rw [leaves, List.map_nil, List.map_nil, List.append_nil, List.foldlM_nil]; rfl
  | cons entry entries ih =>
      obtain ⟨name, value⟩ := entry
      have later : (Members.names (inner ++ [(name, Draft.leaf value)]) ++
          Members.names entries).Nodup := by
        simpa [Members.names] using distinct
      have fresh : name ∉ Members.names inner := by
        intro listed
        have apart := List.nodup_append.mp distinct
        exact apart.2.2 name listed name List.mem_cons_self rfl
      have stepped : Sheet.step ⟨path, around inner⟩ (.pair [name] value) =
          some ⟨path, around (inner ++ [(name, .leaf value)])⟩ := by
        rw [Sheet.step, focus, insertPair_fresh fresh]
        rfl
      have rest := ih _ later
      rw [List.append_assoc] at rest
      rw [List.map_cons, List.foldlM_cons]
      change (Sheet.step _ (.pair [name] value)).bind _ = _
      rw [stepped]
      exact rest

/-- A table under a header of its own comes after the tables and values before it. -/
theorem foldlM_section {path : List String} {origin : Origin}
    {around : Members Draft → Members Draft} (focus : Focus path .header origin around)
    {inner : Members Draft} {name : String} (fresh : name ∉ Members.names inner)
    (entries : List (String × Toml)) (distinct : (Members.names entries).Nodup)
    (current : List String) :
    (Statement.table (path ++ [name]) ::
        entries.map fun (name, value) => Statement.pair [name] value).foldlM Sheet.step
        ⟨current, around inner⟩ =
      some ⟨path ++ [name], around (inner ++ [(name, .table .header (leaves entries))])⟩ := by
  have inside := focus.append (Focus.last fresh origin (Focus.here .header))
  have filled := foldlM_pairs inside entries [] distinct
  have headed : Sheet.step ⟨current, around inner⟩ (.table (path ++ [name])) =
      some ⟨path ++ [name], around (inner ++ [(name, .table .header [])])⟩ := by
    rw [Sheet.step, List.getLast?_concat, List.dropLast_concat, Option.bind_some, focus,
      insertTable_fresh fresh]
    rfl
  rw [List.foldlM_cons, headed]
  exact filled

theorem finishMembers_append (first second : Members Draft) :
    finishMembers (first ++ second) = finishMembers first ++ finishMembers second := by
  induction first with
  | nil => rfl
  | cons pair rest ih =>
      obtain ⟨name, draft⟩ := pair
      rw [List.cons_append, finishMembers, finishMembers, ih, List.cons_append]

theorem finishMembers_leaves (entries : List (String × Toml)) :
    finishMembers (leaves entries) = entries := by
  induction entries with
  | nil => rfl
  | cons entry rest ih =>
      obtain ⟨name, value⟩ := entry
      rw [leaves] at ih
      rw [leaves, List.map_cons, finishMembers, finish, ih]

end Toml.Draft

end ResourceEditor
