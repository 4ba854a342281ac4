import ResourceEditor.Config.Variable
/-
This file shows that a document names each of its tables once, and each of its values in these
tables once, also after something is laid over it, and what is found there then.
-/

namespace ResourceEditor

namespace Toml

/-- What holds at the start and after each step holds at the end. -/
theorem foldlM_keeps {σ α : Type} {step : σ → α → Option σ} (holds : σ → Prop) {items : List α}
    (keeps : ∀ item ∈ items, ∀ state next, holds state → step state item = some next → holds next)
    {first last : σ} (initial : holds first) (folded : items.foldlM step first = some last) :
    holds last := by
  induction items generalizing first with
  | nil =>
      cases folded
      exact initial
  | cons item rest ih =>
      rw [List.foldlM_cons] at folded
      obtain ⟨next, stepped, remaining⟩ := Option.bind_eq_some_iff.mp folded
      obtain ⟨here, later⟩ := List.forall_mem_cons.mp keeps
      exact ih later (here first next initial stepped) remaining

/-- No two members have one name. -/
def IsDistinct (toml : Toml) : Prop :=
  ∀ members, toml.members? = some members → (Members.names members).Nodup

/-- No two members have one name, in the whole or in a table that it holds. -/
def IsTidy (toml : Toml) : Prop :=
  toml.IsDistinct ∧ ∀ members, toml.members? = some members →
    ∀ pair ∈ members, pair.2.IsDistinct

theorem isDistinct_of_members?_eq_none {toml : Toml} (noTable : toml.members? = none) :
    toml.IsDistinct := by
  intro members found
  rw [noTable] at found
  cases found

theorem isDistinct_date (text : String) : (date text).IsDistinct := by
  intro members found
  cases found
  simp [Members.names]

theorem isDistinct_table {members : Members Toml} :
    (table members).IsDistinct ↔ (Members.names members).Nodup := by
  constructor
  · intro distinct
    exact distinct members rfl
  · intro distinct found same
    cases same
    exact distinct

theorem nodup_overlayMembers {members : Members Toml} (distinct : (Members.names members).Nodup)
    (added : List (String × Toml)) : (Members.names (overlayMembers members added)).Nodup := by
  induction added generalizing members with
  | nil => exact distinct
  | cons pair rest ih =>
      obtain ⟨name, value⟩ := pair
      rw [overlayMembers]
      exact ih (Members.nodup_names_set name _ distinct)

theorem isDistinct_overlay {old new : Toml} (first : old.IsDistinct) (second : new.IsDistinct) :
    (old.overlay new).IsDistinct := by
  cases new with
  | table added =>
      rw [overlay]
      split
      next members found => exact isDistinct_table.mpr (nodup_overlayMembers (first _ found) added)
      next => exact second
  | date text =>
      rw [overlay]
      split
      next members found =>
        exact isDistinct_table.mpr (Members.nodup_names_set _ _ (first _ found))
      next => exact second
  | _ => exact isDistinct_of_members?_eq_none rfl

theorem overlayMembers_distinct {members : Members Toml} {added : List (String × Toml)}
    (first : ∀ pair ∈ members, pair.2.IsDistinct) (second : ∀ pair ∈ added, pair.2.IsDistinct) :
    ∀ pair ∈ overlayMembers members added, pair.2.IsDistinct := by
  induction added generalizing members with
  | nil => exact first
  | cons pair rest ih =>
      obtain ⟨name, value⟩ := pair
      obtain ⟨here, later⟩ := List.forall_mem_cons.mp second
      rw [overlayMembers]
      refine ih (fun pair member => ?_) later
      obtain rfl | old := Members.mem_of_mem_set member
      · dsimp only
        split
        next old found => exact isDistinct_overlay (first _ (Members.mem_of_get? found)) here
        next => exact here
      · exact first pair old

theorem isTidy_table {members : Members Toml} :
    (table members).IsTidy ↔
      (Members.names members).Nodup ∧ ∀ pair ∈ members, pair.2.IsDistinct := by
  rw [IsTidy, isDistinct_table]
  refine and_congr_right fun _ => ⟨fun tidy => tidy members rfl, fun tidy found same => ?_⟩
  cases same
  exact tidy

/-- What is no table holds none. -/
theorem isTidy_of_members?_eq_none {toml : Toml} (noTable : toml.members? = none) :
    toml.IsTidy := by
  refine ⟨isDistinct_of_members?_eq_none noTable, fun members found => ?_⟩
  rw [noTable] at found
  cases found

theorem isTidy_overlay {old new : Toml} (first : old.IsTidy) (second : new.IsTidy) :
    (old.overlay new).IsTidy := by
  have distinct := isDistinct_overlay first.1 second.1
  cases new with
  | table added =>
      rw [overlay] at distinct ⊢
      split at distinct
      next members found =>
        exact isTidy_table.mpr ⟨isDistinct_table.mp distinct,
          overlayMembers_distinct (first.2 _ found) (isTidy_table.mp second).2⟩
      next => exact second
  | date text =>
      rw [overlay] at distinct ⊢
      split at distinct
      next members found =>
        refine isTidy_table.mpr ⟨isDistinct_table.mp distinct, fun pair member => ?_⟩
        obtain rfl | old := Members.mem_of_mem_set member
        · exact isDistinct_of_members?_eq_none rfl
        · exact first.2 _ found pair old
      next => exact second
  | _ => exact isTidy_of_members?_eq_none rfl

/-! Documents that are built from statements. -/

namespace Draft

/-- A draft of a value without two members of one name. -/
def IsDistinct : Draft → Prop
  | .leaf value => value.IsDistinct
  | .table _ members => (Members.names members).Nodup
  | .elements _ => True

/-- No two drafts have one name, and none of them has two members of one name. -/
structure AreTidy (members : Members Draft) : Prop where
  names : (Members.names members).Nodup
  drafts : ∀ pair ∈ members, pair.2.IsDistinct

theorem AreTidy.set {members : Members Draft} (tidy : AreTidy members) (name : String)
    {draft : Draft} (distinct : draft.IsDistinct) : AreTidy (members.set name draft) := by
  refine ⟨Members.nodup_names_set name draft tidy.names, fun pair member => ?_⟩
  obtain rfl | old := Members.mem_of_mem_set member
  · exact distinct
  · exact tidy.drafts pair old

/-- A change sets one name, and under a condition not to a draft that has two members of one
name. -/
def Sets (condition : Prop) (change : Origin → Members Draft → Option (Members Draft)) : Prop :=
  ∀ origin inner next, change origin inner = some next →
    ∃ name draft, next = inner.set name draft ∧ (condition → AreTidy inner → draft.IsDistinct)

/-- On the way to a table one draft is changed: a table, or the last one of an array of tables. -/
theorem descend_cons {dotted : Bool} {change : Origin → Members Draft → Option (Members Draft)}
    {name : String} {path : List String} {start : Origin} {members next : Members Draft}
    (changed : descend dotted change (name :: path) start members = some next) :
    ∃ draft, next = members.set name draft ∧
      ((∃ tables, draft = .elements tables) ∨
        ∃ origin before inner, draft = .table origin inner ∧
          (before = [] ∨ members.get? name = some (.table origin before)) ∧
          descend dotted change path origin before = some inner) := by
  rw [descend] at changed
  split at changed
  next =>
    obtain ⟨inner, made, rfl⟩ := Option.map_eq_some_iff.mp changed
    exact ⟨_, rfl, .inr ⟨_, _, _, rfl, .inl rfl, made⟩⟩
  next origin before found =>
    split at changed
    · cases changed
    · obtain ⟨inner, made, rfl⟩ := Option.map_eq_some_iff.mp changed
      exact ⟨_, rfl, .inr ⟨_, _, _, rfl, .inr found, made⟩⟩
  next =>
    obtain ⟨last, _, rfl⟩ := Option.map_eq_some_iff.mp changed
    exact ⟨_, rfl, .inl ⟨_, rfl⟩⟩
  next => cases changed
  next => cases changed

theorem Sets.descend {condition : Prop}
    {change : Origin → Members Draft → Option (Members Draft)} (sets : Sets condition change)
    (dotted : Bool) (path : List String) : Sets condition (descend dotted change path) := by
  induction path with
  | nil => exact sets
  | cons name path ih =>
      intro start members next changed
      obtain ⟨draft, rfl, shape⟩ := descend_cons changed
      refine ⟨name, draft, rfl, fun _ tidy => ?_⟩
      obtain ⟨tables, rfl⟩ | ⟨origin, before, inner, rfl, came, made⟩ := shape
      · trivial
      · obtain ⟨inside, _, rfl, _⟩ := ih origin before inner made
        refine Members.nodup_names_set inside _ ?_
        obtain rfl | found := came
        · exact List.nodup_nil
        · exact tidy.drafts _ (Members.mem_of_get? found)

/-- A draft under a new name. -/
theorem append_eq_set {members : Members Draft} {name : String}
    (missing : members.get? name = none) (draft : Draft) :
    members ++ [(name, draft)] = members.set name draft :=
  (Members.set_of_not_mem (Members.not_mem_of_get? missing) draft).symm

theorem sets_insertPair (path : List String) (value : Toml) :
    Sets value.IsDistinct (insertPair path value) := by
  intro start members next changed
  rw [insertPair] at changed
  split at changed
  next => cases changed
  next name _ =>
    refine Sets.descend (fun origin inner next changed => ?_) true path.dropLast _ _ _ changed
    split at changed
    next => cases changed
    next free =>
      cases changed
      rw [Bool.or_eq_true, not_or] at free
      have missing : inner.get? name = none := Option.not_isSome_iff_eq_none.mp free.1
      exact ⟨name, .leaf value, append_eq_set missing _, fun distinct _ => distinct⟩

theorem sets_insertTable (name : String) : Sets True (insertTable name) := by
  intro origin inner next changed
  rw [insertTable] at changed
  split at changed
  next missing =>
    cases changed
    exact ⟨name, _, append_eq_set missing _, fun _ _ => List.nodup_nil⟩
  next members found =>
    cases changed
    exact ⟨name, _, rfl, fun _ tidy => tidy.drafts _ (Members.mem_of_get? found)⟩
  next => cases changed

theorem sets_insertElement (name : String) : Sets True (insertElement name) := by
  intro origin inner next changed
  rw [insertElement] at changed
  split at changed
  next missing =>
    cases changed
    exact ⟨name, _, append_eq_set missing _, fun _ _ => trivial⟩
  next =>
    cases changed
    exact ⟨name, _, rfl, fun _ _ => trivial⟩
  next => cases changed

theorem Sheet.step_sets {sheet next : Sheet} {line : Statement}
    (stepped : sheet.step line = some next) :
    ∃ name draft, next.root = Members.set sheet.root name draft ∧
      ((∀ path value, line = .pair path value → value.IsDistinct) → AreTidy sheet.root →
        draft.IsDistinct) := by
  cases line with
  | pair path value =>
      obtain ⟨root, changed, rfl⟩ := Option.map_eq_some_iff.mp stepped
      obtain ⟨name, draft, same, distinct⟩ :=
        (sets_insertPair path value).descend false sheet.current _ _ _ changed
      exact ⟨name, draft, same, fun values => distinct (values path value rfl)⟩
  | table path =>
      obtain ⟨last, _, stepped⟩ := Option.bind_eq_some_iff.mp stepped
      obtain ⟨root, changed, rfl⟩ := Option.map_eq_some_iff.mp stepped
      obtain ⟨name, draft, same, distinct⟩ :=
        (sets_insertTable last).descend false path.dropLast _ _ _ changed
      exact ⟨name, draft, same, fun _ => distinct trivial⟩
  | element path =>
      obtain ⟨last, _, stepped⟩ := Option.bind_eq_some_iff.mp stepped
      obtain ⟨root, changed, rfl⟩ := Option.map_eq_some_iff.mp stepped
      obtain ⟨name, draft, same, distinct⟩ :=
        (sets_insertElement last).descend false path.dropLast _ _ _ changed
      exact ⟨name, draft, same, fun _ => distinct trivial⟩

theorem names_finishMembers (members : Members Draft) :
    Members.names (finishMembers members) = Members.names members := by
  induction members with
  | nil => rfl
  | cons pair rest ih =>
      obtain ⟨name, draft⟩ := pair
      exact congrArg (name :: ·) ih

theorem isDistinct_finish {draft : Draft} (distinct : draft.IsDistinct) :
    (finish draft).IsDistinct := by
  cases draft with
  | leaf value => exact distinct
  | table origin members =>
      rw [finish, isDistinct_table, names_finishMembers]
      exact distinct
  | elements tables => exact isDistinct_of_members?_eq_none rfl

theorem finishMembers_distinct {members : Members Draft}
    (distinct : ∀ pair ∈ members, pair.2.IsDistinct) :
    ∀ pair ∈ finishMembers members, pair.2.IsDistinct := by
  induction members with
  | nil => exact List.forall_mem_nil _
  | cons pair rest ih =>
      obtain ⟨name, draft⟩ := pair
      obtain ⟨here, later⟩ := List.forall_mem_cons.mp distinct
      exact List.forall_mem_cons.mpr ⟨isDistinct_finish here, ih later⟩

end Draft

/-- The table of a document has no two members of one name, whatever its lines say. -/
theorem isDistinct_ofStatements? {lines : List Statement} {toml : Toml}
    (built : ofStatements? lines = some toml) : toml.IsDistinct := by
  obtain ⟨sheet, folded, rfl⟩ := Option.map_eq_some_iff.mp built
  have empty : (Members.names ([] : Members Draft)).Nodup := List.nodup_nil
  rw [isDistinct_table, Draft.names_finishMembers]
  refine foldlM_keeps (fun sheet : Draft.Sheet => (Members.names sheet.root).Nodup)
    (fun line _ sheet next distinct stepped => ?_) empty folded
  obtain ⟨name, draft, same, _⟩ := Draft.Sheet.step_sets stepped
  rw [same]
  exact Members.nodup_names_set name draft distinct

theorem isTidy_ofStatements? {lines : List Statement} {toml : Toml}
    (values : ∀ path value, .pair path value ∈ lines → value.IsDistinct)
    (built : ofStatements? lines = some toml) : toml.IsTidy := by
  obtain ⟨sheet, folded, rfl⟩ := Option.map_eq_some_iff.mp built
  have tidy : Draft.AreTidy sheet.root := by
    have empty : Draft.AreTidy [] := ⟨List.nodup_nil, List.forall_mem_nil _⟩
    refine foldlM_keeps (fun sheet : Draft.Sheet => Draft.AreTidy sheet.root)
      (fun line member sheet next tidy stepped => ?_) empty folded
    obtain ⟨name, draft, same, distinct⟩ := Draft.Sheet.step_sets stepped
    rw [same]
    refine tidy.set name (distinct (fun path value isPair => ?_) tidy)
    exact values path value (isPair ▸ member)
  rw [isTidy_table, Draft.names_finishMembers]
  exact ⟨tidy.names, Draft.finishMembers_distinct tidy.drafts⟩

/-! Values that are read. -/

namespace Reader

/-- A reader that succeeds has run its two parts. -/
theorem of_run_bind {α β : Type} {first : Reader α} {next : α → Reader β} {text rest : List Char}
    {value : β} (ran : (first >>= next).run text = some (value, rest)) :
    ∃ middle left, first.run text = some (middle, left) ∧
      (next middle).run left = some (value, rest) := by
  rw [StateT.run_bind] at ran
  obtain ⟨⟨middle, left⟩, here, later⟩ := Option.bind_eq_some_iff.mp ran
  exact ⟨middle, left, here, later⟩

theorem isDistinct_ofWord {word : List Char} {toml : Toml} (read : ofWord word = some toml) :
    toml.IsDistinct := by
  rw [ofWord] at read
  split at read
  · cases read
    exact isDistinct_of_members?_eq_none rfl
  split at read
  · cases read
    exact isDistinct_of_members?_eq_none rfl
  split at read
  · cases read
    exact isDistinct_date _
  split at read
  · cases read
    exact isDistinct_of_members?_eq_none rfl
  split at read
  · cases read
    exact isDistinct_of_members?_eq_none rfl
  · obtain ⟨numeral, _, rfl⟩ := Option.map_eq_some_iff.mp read
    exact isDistinct_of_members?_eq_none rfl

theorem isDistinct_of_readWord {text rest : List Char} {toml : Toml}
    (read : readWord text = some (toml, rest)) : toml.IsDistinct := by
  rw [readWord] at read
  split at read
  split at read
  · split at read
    obtain ⟨value, made, same⟩ := Option.map_eq_some_iff.mp read
    cases same
    exact isDistinct_ofWord made
  · obtain ⟨value, made, same⟩ := Option.map_eq_some_iff.mp read
    cases same
    exact isDistinct_ofWord made

theorem isDistinct_of_string {text rest : List Char} {toml : Toml}
    (read : string.run text = some (toml, rest)) : toml.IsDistinct := by
  obtain ⟨_, _, _, made⟩ := of_run_bind read
  cases made
  exact isDistinct_of_members?_eq_none rfl

theorem isDistinct_of_scalar {text rest : List Char} {toml : Toml}
    (read : value.scalar.run text = some (toml, rest)) : toml.IsDistinct := by
  obtain ⟨_, _, _, read⟩ := of_run_bind read
  split at read
  · exact isDistinct_of_string read
  · exact isDistinct_of_string read
  · exact isDistinct_of_readWord read

theorem isDistinct_of_inlineTable {value : Reader Toml} {text rest : List Char} {toml : Toml}
    (read : (inlineTable value).run text = some (toml, rest)) : toml.IsDistinct := by
  obtain ⟨_, _, _, read⟩ := of_run_bind read
  obtain ⟨_, _, _, read⟩ := of_run_bind read
  split at read
  · cases read
    exact isDistinct_table.mpr List.nodup_nil
  · obtain ⟨_, _, _, read⟩ := of_run_bind read
    obtain ⟨_, _, _, read⟩ := of_run_bind read
    obtain ⟨_, _, _, read⟩ := of_run_bind read
    obtain ⟨_, built, made⟩ := Option.bind_eq_some_iff.mp read
    cases made
    exact isDistinct_ofStatements? built

theorem isDistinct_of_value {depth : Nat} {text rest : List Char} {toml : Toml}
    (read : (value depth).run text = some (toml, rest)) : toml.IsDistinct := by
  cases depth with
  | zero => exact isDistinct_of_scalar read
  | succ depth =>
      obtain ⟨_, _, _, read⟩ := of_run_bind read
      split at read
      · obtain ⟨_, _, _, read⟩ := of_run_bind read
        obtain ⟨_, _, _, made⟩ := of_run_bind read
        cases made
        exact isDistinct_of_members?_eq_none rfl
      · obtain ⟨_, _, _, read⟩ := of_run_bind read
        split at read
        · exact isDistinct_of_inlineTable read
        · exact isDistinct_of_scalar read

theorem isDistinct_of_statement {text rest : List Char} {line : Statement}
    (read : statement.run text = some (line, rest)) (path : List String) (value : Toml)
    (isPair : line = .pair path value) : value.IsDistinct := by
  subst isPair
  obtain ⟨_, _, _, read⟩ := of_run_bind read
  split at read
  · obtain ⟨_, _, _, read⟩ := of_run_bind read
    obtain ⟨_, _, _, read⟩ := of_run_bind read
    split at read
    · obtain ⟨_, _, _, read⟩ := of_run_bind read
      obtain ⟨_, _, _, read⟩ := of_run_bind read
      obtain ⟨_, _, _, made⟩ := of_run_bind read
      cases made
    · obtain ⟨_, _, _, read⟩ := of_run_bind read
      obtain ⟨_, _, _, made⟩ := of_run_bind read
      cases made
  · obtain ⟨_, _, _, read⟩ := of_run_bind read
    obtain ⟨_, _, _, read⟩ := of_run_bind read
    obtain ⟨_, _, _, read⟩ := of_run_bind read
    obtain ⟨_, _, found, made⟩ := of_run_bind read
    cases made
    exact isDistinct_of_value found

theorem isDistinct_of_statements {rounds : Nat} {text rest : List Char} {lines : List Statement}
    (read : (statements rounds).run text = some (lines, rest)) (path : List String) (value : Toml)
    (member : .pair path value ∈ lines) : value.IsDistinct := by
  induction rounds generalizing text lines with
  | zero => cases read
  | succ rounds ih =>
      obtain ⟨_, _, _, read⟩ := of_run_bind read
      obtain ⟨_, _, _, read⟩ := of_run_bind read
      split at read
      · cases read
        cases member
      · obtain ⟨line, _, found, read⟩ := of_run_bind read
        obtain ⟨_, _, _, read⟩ := of_run_bind read
        obtain ⟨later, _, others, made⟩ := of_run_bind read
        cases made
        obtain same | inLater := List.mem_cons.mp member
        · exact isDistinct_of_statement found path value same.symm
        · exact ih others inLater

end Reader

/-- The tables of a document that is read from a text have no two members of one name. -/
theorem isTidy_of_parse? {text : String} {toml : Toml} (read : parse? text = some toml) :
    toml.IsTidy := by
  obtain ⟨_, read, built⟩ := Option.bind_eq_some_iff.mp read
  obtain ⟨⟨lines, rest⟩, ran, rfl⟩ := Option.map_eq_some_iff.mp read
  exact isTidy_ofStatements? (Reader.isDistinct_of_statements ran) built

end Toml

/-! Settings that variables make. -/

namespace Variable

open Toml (IsDistinct IsTidy)

theorem isDistinct_nest (path : List String) {value : Toml} (distinct : value.IsDistinct) :
    (Toml.nest path value).IsDistinct := by
  cases path with
  | nil => exact distinct
  | cons name path =>
      rw [Toml.nest, Toml.isDistinct_table]
      simp [Members.names]

theorem isTidy_nest {path : List String} (nonempty : path ≠ []) {value : Toml}
    (distinct : value.IsDistinct) : (Toml.nest path value).IsTidy := by
  cases path with
  | nil => exact absurd rfl nonempty
  | cons name path =>
      rw [Toml.nest, Toml.isTidy_table]
      refine ⟨by simp [Members.names], fun pair member => ?_⟩
      cases List.mem_singleton.mp member
      exact isDistinct_nest path distinct

theorem isDistinct_ofWord (text : List Char) : (ofWord text).IsDistinct := by
  refine Toml.isDistinct_of_members?_eq_none ?_
  rw [ofWord]
  split
  next => rfl
  next => split <;> rfl

theorem Reader.isDistinct_of_plain {depth : Nat} {text left rest : List Char} {toml : Toml}
    (read : (value.plain depth text).run left = some (toml, rest)) : toml.IsDistinct := by
  unfold value.plain at read
  split at read
  · cases read
    exact Toml.isDistinct_of_members?_eq_none rfl
  · cases read
    exact Toml.isDistinct_of_members?_eq_none rfl
  · obtain ⟨_, _, _, made⟩ := Toml.Reader.of_run_bind read
    cases made
    exact Toml.isDistinct_of_members?_eq_none rfl
  · cases read
    exact Toml.isDistinct_of_members?_eq_none rfl
  · cases read
  · cases read
  · obtain ⟨_, _, _, read⟩ := Toml.Reader.of_run_bind read
    obtain ⟨_, _, _, made⟩ := Toml.Reader.of_run_bind read
    cases made
    exact Toml.isDistinct_of_members?_eq_none rfl
  · obtain ⟨_, _, _, read⟩ := Toml.Reader.of_run_bind read
    obtain ⟨_, _, _, made⟩ := Toml.Reader.of_run_bind read
    cases made
    exact Toml.isDistinct_table.mpr (Members.nodup_names_collect _)
  · cases read
    exact isDistinct_ofWord _

theorem isDistinct_value (text : String) : (value text).IsDistinct := by
  rw [value]
  split
  next toml read =>
    rw [Reader.value] at read
    obtain ⟨_, _, _, read⟩ := Toml.Reader.of_run_bind read
    obtain ⟨_, _, _, read⟩ := Toml.Reader.of_run_bind read
    obtain ⟨_, _, found, read⟩ := Toml.Reader.of_run_bind read
    obtain ⟨_, _, _, made⟩ := Toml.Reader.of_run_bind read
    cases made
    exact Reader.isDistinct_of_plain found
  next => exact Toml.isDistinct_of_members?_eq_none rfl

theorem path?_ne_nil {name : String} {path : List String} (found : path? name = some path) :
    path ≠ [] := by
  rw [path?] at found
  split at found
  next => cases found
  next =>
    dsimp only at found
    split at found
    next => cases found
    next nonempty =>
      cases found
      intro empty
      exact nonempty (List.isEmpty_iff.mpr empty)

/-- The settings of variables have no two members of one name, and neither have their tables. -/
theorem isTidy_settings (environment : Environment) : (settings environment).IsTidy := by
  have empty : (Toml.table []).IsTidy :=
    Toml.isTidy_table.mpr ⟨List.nodup_nil, List.forall_mem_nil _⟩
  refine List.foldlRecOn (motive := IsTidy) environment _ empty fun toml tidy pair _ => ?_
  dsimp only
  split
  next path found =>
    exact Toml.isTidy_overlay tidy (isTidy_nest (path?_ne_nil found) (isDistinct_value _))
  next => exact tidy

end Variable

namespace Toml

/-- A value that is no table is replaced. -/
theorem overlay_of_members?_eq_none {old : Toml} (noTable : old.members? = none) (new : Toml) :
    old.overlay new = new := by
  cases new with
  | table added => rw [overlay, noTable]
  | date text => rw [overlay, noTable]
  | _ => rfl

/-- What is found in the end: what is new, laid over what was there. -/
def joined (old new : Option Toml) : Option Toml :=
  match new with
  | none => old
  | some value => some ((old.map (·.overlay value)).getD value)

theorem get?_overlayMembers {members : Members Toml} {added : List (String × Toml)}
    (distinct : (Members.names added).Nodup) (name : String) :
    (overlayMembers members added).get? name =
      joined (members.get? name) (Members.get? added name) := by
  induction added generalizing members with
  | nil => rfl
  | cons pair rest ih =>
      obtain ⟨other, value⟩ := pair
      obtain ⟨fresh, distinct⟩ := List.nodup_cons.mp distinct
      rw [overlayMembers, ih distinct, Members.get?_cons, Members.get?_set]
      split
      next same =>
        subst same
        rw [Members.get?_of_not_mem fresh]
        cases members.get? other <;> rfl
      next => rfl

/-- A member of a table. -/
def member? (toml : Toml) (name : String) : Option Toml := toml.members?.bind (·.get? name)

/-- Over an empty table there is only what is new. -/
theorem member?_overlay_empty {toml : Toml} (distinct : toml.IsDistinct) (name : String) :
    ((table []).overlay toml).member? name = toml.member? name := by
  cases toml with
  | table added =>
      refine (get?_overlayMembers (isDistinct_table.mp distinct) name).trans ?_
      change joined none (Members.get? added name) = Members.get? added name
      cases Members.get? added name <;> rfl
  | _ => rfl

end Toml

end ResourceEditor
