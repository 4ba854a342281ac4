import ResourceEditor.Proofs.Command.Editing
import ResourceEditor.Proofs.Edit.Extension
import ResourceEditor.Proofs.Path.Grammar
import ResourceEditor.Proofs.Wire.Agreement
/-
This file follows an assignment through its rounds. Each round but the last one appends the next
entry of a list that is lacking; the last one sets the scalar, or it fails and the entries stay.
-/

namespace ResourceEditor

namespace Editing

variable {resource : Resource} {path : Path} {raw : String} {session last : Session}
  {model grown : Record} {lists : List Path}

/-- What an assignment comes to once the form lacks no entry any more. -/
def outcome (resource : Resource) (path : Path) (raw : String) (session : Session)
    (grown : Record) : Except CommandError Unit × Session :=
  match grown.setScalar session.schema path raw with
  | .ok next => (.ok (), { session with model := next })
  | .error error => (.error (.ofEdit resource (.edit error)), { session with model := grown })

theorem missingEntry?_lacks (raw : String) {schema : Schema} {list : Path} {length : Nat}
    (lacks : Record.LacksEntry schema model path list length) :
    model.setScalar schema path raw = .error (.indexOutOfRange list length length) ∧
      missingEntry? (.error (.edit (.indexOutOfRange list length length))) = some list :=
  ⟨Record.setScalar_lacks_iff.mpr lacks, if_pos rfl⟩

theorem missingEntry?_full {schema : Schema} {error : EditError}
    (full : ∀ list length, ¬ Record.LacksEntry schema model path list length)
    (failed : model.setScalar schema path raw = .error error) :
    missingEntry? (.error (.edit error)) = none := by
  unfold missingEntry?
  split
  next list index length same =>
    cases same
    refine if_neg fun short => ?_
    subst short
    exact full _ _ (Record.setScalar_lacks_iff.mp failed)
  next => rfl

theorem run_assignWithin (isOpen : session.closed = false)
    (extension : Record.Extends session.schema path model lists grown) {appends : Nat}
    (enough : lists.length ≤ appends) :
    (assignWithin resource path raw appends).run.run { session with model } =
      outcome resource path raw session grown := by
  induction extension generalizing appends with
  | @done model full =>
      cases appends with
      | zero =>
          rw [assignWithin, run_attempt_bind _ _ isOpen, outcome]
          cases model.setScalar session.schema path raw <;> rfl
      | succ appends =>
          rw [assignWithin, run_attempt_bind _ _ isOpen, outcome]
          cases set : model.setScalar session.schema path raw with
          | ok next => rfl
          | error error =>
              simp only [missingEntry?_full full set]
              rfl
  | @grow model next last list lists length lacks appended _ ih =>
      cases appends with
      | zero => exact absurd enough (Nat.not_succ_le_zero _)
      | succ appends =>
          obtain ⟨short, missing⟩ := missingEntry?_lacks raw lacks
          rw [assignWithin, run_attempt_bind _ _ isOpen]
          simp only [short, missing]
          rw [run_attempt_bind _ _ isOpen]
          simp only [appended]
          exact ih (Nat.le_of_succ_le_succ enough)

theorem run_assign (isOpen : session.closed = false)
    (extension : Record.Extends session.schema path session.model lists grown)
    (few : lists.length ≤ listCount path) :
    (assign resource path raw).run.run session = outcome resource path raw session grown :=
  run_assignWithin isOpen extension few

/-- One round of an assignment, which says which list has got an entry if it is not the last one.
The path of the list is read from its text. -/
def assignRound (resource : Resource) (path : Path) (raw : String) : Editing (Option Path) := do
  let result ← attempt fun schema model => model.setScalar schema path raw
  match missingEntry? result with
  | none =>
      orFail resource result
      return none
  | some list =>
      match Path.ofUser list.render with
      | .error error => throw (.ofEditorError (.edit error))
      | .ok list =>
          orFail resource (← attempt fun schema model => model.append schema list)
          return some list

/-- An assignment is one round after the other for as long as each says that a list has got an
entry, with no limit to their number. -/
inductive Assigns (resource : Resource) (path : Path) (raw : String) :
    Session → List Path → Except CommandError Unit × Session → Prop where
  | done {session last : Session}
      (ran : (assignRound resource path raw).run.run session = (.ok none, last)) :
      Assigns resource path raw session [] (.ok (), last)
  | failed {session last : Session} {error : CommandError}
      (ran : (assignRound resource path raw).run.run session = (.error error, last)) :
      Assigns resource path raw session [] (.error error, last)
  | again {session next : Session} {list : Path} {lists : List Path}
      {final : Except CommandError Unit × Session}
      (ran : (assignRound resource path raw).run.run session = (.ok (some list), next))
      (others : Assigns resource path raw next lists final) :
      Assigns resource path raw session (list :: lists) final

theorem Assigns.unique {final other : Except CommandError Unit × Session} {others : List Path}
    (assigns : Assigns resource path raw session lists final)
    (again : Assigns resource path raw session others other) : others = lists ∧ other = final := by
  induction assigns generalizing others other with
  | done ran =>
      cases again with
      | done same =>
          cases ran.symm.trans same
          exact ⟨rfl, rfl⟩
      | failed same => cases ran.symm.trans same
      | again same => cases ran.symm.trans same
  | failed ran =>
      cases again with
      | failed same =>
          cases ran.symm.trans same
          exact ⟨rfl, rfl⟩
      | done same => cases ran.symm.trans same
      | again same => cases ran.symm.trans same
  | again ran _ ih =>
      cases again with
      | again same further =>
          cases ran.symm.trans same
          obtain ⟨rfl, rfl⟩ := ih further
          exact ⟨rfl, rfl⟩
      | done same => cases ran.symm.trans same
      | failed same => cases ran.symm.trans same

theorem isWritable_of_ofUser {text : String} (parsed : Path.ofUser text = .ok path) :
    path.IsWritable := by
  rw [Path.ofUser] at parsed
  cases read : Path.parse text with
  | error fault =>
      rw [read] at parsed
      cases parsed
  | ok found =>
      rw [read] at parsed
      cases parsed
      exact Path.isWritable_of_parse read

/-- The path of a list that something is appended to can be read from its text. -/
theorem ofUser_render {list : Path} {position : Nat} (writable : path.IsWritable)
    (onTheWay : list.entry position <+: path) : Path.ofUser list.render = .ok list := by
  have some : list ≠ [] := by
    rintro rfl
    obtain ⟨⟨name, rest, rfl⟩, -⟩ := writable
    obtain ⟨same, -⟩ := List.cons_prefix_cons.mp onTheWay
    cases same
  have before : list <+: path := (Path.prefix_entry list position).trans onTheWay
  rw [Path.ofUser, (writable.of_prefix some before).parse_render]
  rfl

theorem assigns_of_extends (isOpen : session.closed = false) (writable : path.IsWritable)
    (extension : Record.Extends session.schema path model lists grown) :
    Assigns resource path raw { session with model } lists
      (outcome resource path raw session grown) := by
  have onTheWay := extension.entry_prefix
  induction extension with
  | @done model full =>
      rw [outcome]
      cases set : model.setScalar session.schema path raw with
      | ok next =>
          refine .done ?_
          rw [assignRound, run_attempt_bind _ _ isOpen]
          simp only [set]
          rfl
      | error error =>
          refine .failed ?_
          rw [assignRound, run_attempt_bind _ _ isOpen]
          simp only [set, missingEntry?_full full set]
          rfl
  | @grow model next last list lists length lacks appended _ ih =>
      obtain ⟨⟨position, here⟩, further⟩ := List.forall_mem_cons.mp onTheWay
      obtain ⟨short, missing⟩ := missingEntry?_lacks raw lacks
      refine .again ?_ (ih further)
      rw [assignRound, run_attempt_bind _ _ isOpen]
      simp only [short, missing, ofUser_render writable here]
      rw [run_attempt_bind _ _ isOpen]
      simp only [appended]
      rfl

theorem outcome_isOk_iff :
    (outcome resource path raw session grown).1 = .ok () ↔
      ∃ next, grown.setScalar session.schema path raw = .ok next := by
  rw [outcome]
  cases grown.setScalar session.schema path raw with
  | ok next => exact iff_of_true rfl ⟨next, rfl⟩
  | error error => exact iff_of_false nofun nofun

/-- An assignment succeeds just when the path leads to an editable scalar and can be gone. -/
theorem succeeds_iff (extension : Record.Extends session.schema path session.model lists grown) :
    (outcome resource path raw session grown).1 = .ok () ↔
      ∃ route leaf rule, route.map Prod.fst = path ∧ session.schema.whole.Leads route leaf ∧
        leaf.shape = .scalar rule ∧
        Value.Takes session.schema.whole (.record session.model) route := by
  rw [outcome_isOk_iff]
  constructor
  · rintro ⟨next, set⟩
    obtain ⟨error, refuses⟩ | ⟨route, leaf, rule, rfl, some, leads, shape⟩ :=
      Record.refuses_or_leads session.schema path
    · rw [Record.setScalar_of_refuses refuses] at set
      cases set
    · exact ⟨route, leaf, rule, rfl, leads, shape,
        (extension.setScalar_isOk_iff leads rfl some shape).mp ⟨next, set⟩⟩
  · rintro ⟨route, leaf, rule, rfl, leads, shape, takes⟩
    have some : route ≠ [] := by
      rintro rfl
      cases leads
      cases shape
    exact (extension.setScalar_isOk_iff leads rfl some shape).mpr takes

/-- An assignment comes to its end after no more appends than its path has positions, where its
rounds have no limit. It succeeds just when the path leads to an editable scalar and can be gone in
the form of the session. Then the path holds what the text becomes in the scalar, every list on the
path is as long as it was or just long enough for the position on the path, and what the form held
beside the path it still holds. -/
theorem assign_fills (resource kind : Resource) (session : Session) (text raw : String)
    (path : Path) (isOpen : session.closed = false) (registered : session.schema = kind.schema)
    (parsed : Path.ofUser text = .ok path) :
    ∃ lists result last, (assign resource path raw).run.run session = (result, last) ∧
      lists.length ≤ listCount path ∧
      (∀ others final, Assigns resource path raw session others final ↔
        others = lists ∧ final = (result, last)) ∧
      (result = .ok () ↔ ∃ route leaf rule, route.map Prod.fst = path ∧
        session.schema.whole.Leads route leaf ∧ leaf.shape = .scalar rule ∧
        Value.Takes session.schema.whole (.record session.model) route) ∧
      (result = .ok () → ∃ next, last = { session with model := next } ∧
        (∃ leaf rule, session.schema.whole.Reaches path leaf ∧ leaf.shape = .scalar rule ∧
          next.at? path = some (rule.read raw)) ∧
        (∀ (list : Path) position, list.entry position <+: path →
          ∃ old entries, Record.EntriesAt session.schema session.model list old ∧
            next.at? list = some (.list entries) ∧
            entries.length = max old.length (position + 1)) ∧
        ∀ other held, path.Apart other → session.model.at? other = some held →
          next.at? other = some held) := by
  have fresh : session.schema.isDistinct = true := by
    rw [registered]
    exact kind.isDistinct
  have writable : path.IsWritable := isWritable_of_ofUser parsed
  obtain ⟨lists, grown, extension, few⟩ := Record.exists_extends session.schema session.model path
  have assigns : Assigns resource path raw session lists
      (outcome resource path raw session grown) := assigns_of_extends isOpen writable extension
  refine ⟨lists, _, _, run_assign isOpen extension few, few, fun others final => ?_,
    succeeds_iff extension, fun done => ?_⟩
  · constructor
    · exact assigns.unique
    · rintro ⟨rfl, rfl⟩
      exact assigns
  · obtain ⟨next, set⟩ := outcome_isOk_iff.mp done
    have applied : (Part.set path raw).apply session.schema grown = .ok next := set
    obtain ⟨route, leaf, rule, leads, rfl, some, shape, _⟩ := Record.update_of_setScalar set
    obtain ⟨routed, ends⟩ := Schema.route_of_leads leads some
    have final : outcome resource (route.map Prod.fst) raw session grown =
        (.ok (), { session with model := next }) := by
      rw [outcome, set]
    refine ⟨next, congrArg Prod.snd final, ⟨leaf, rule, ⟨route, leads, rfl⟩, shape, ?_⟩, ?_, ?_⟩
    · rw [Record.at?_of_ne_nil _ (by simpa using some)]
      exact Record.at?_of_setScalar routed ends shape set
    · exact fun list position => extension.lengths fresh leads some shape set
    · exact fun other held apart there =>
        Part.at?_apply_of_at? applied apart (extension.at?_of_at? apart.2 there)

/-- The path of a subscriber of the first rule of a policy. -/
def subscriberPath (position : Nat) : Path :=
  [.field "traffic_rules", .index 0, .field "source", .field "gtp_filter", .field "imsis",
    .index position]

theorem ofUser_subscriberPath {text : String} {position : Nat}
    (small : position ≤ 0xFFFFFFFFFFFFFFFF)
    (written : (subscriberPath position).render = text) :
    Path.ofUser text = .ok (subscriberPath position) := by
  have writable : (subscriberPath position).IsWritable := by
    refine ⟨⟨_, _, rfl⟩, ?_⟩
    simp only [subscriberPath, List.forall_mem_cons]
    exact ⟨Path.isName_of_all rfl rfl, Nat.zero_le _, Path.isName_of_all rfl rfl,
      Path.isName_of_all rfl rfl, Path.isName_of_all rfl rfl, small, List.forall_mem_nil _⟩
  rw [Path.ofUser, ← written, writable.parse_render]
  rfl

/-- A policy without rules gets a rule, and the rule gets a subscriber. -/
theorem assign_fills_subscriber :
    let session := Session.create .trafficPolicy "/traffic_policies"
    ∃ lists last, lists.length ≤ 2 ∧
      Assigns .trafficPolicy (subscriberPath 0) "001" session lists (.ok (), last) ∧
      last.model.at? (subscriberPath 0) = some (.text "001") ∧
      ∃ entries, last.model.at? [.field "traffic_rules"] = some (.list entries) ∧
        entries.length = 1 := by
  intro session
  have parsed : Path.ofUser "traffic_rules[0].source.gtp_filter.imsis[0]" =
      .ok (subscriberPath 0) := ofUser_subscriberPath (by decide) (by decide)
  obtain ⟨lists, result, last, ran, few, rounds, -, success⟩ :=
    assign_fills .trafficPolicy .trafficPolicy session _ "001" _ rfl rfl parsed
  have done : ((assign .trafficPolicy (subscriberPath 0) "001").run.run session).1 = .ok () := rfl
  have text : ((assign .trafficPolicy (subscriberPath 0) "001").run.run session).2.model.at?
      (subscriberPath 0) = some (.text "001") := rfl
  rw [ran] at done text
  obtain rfl : result = .ok () := done
  obtain ⟨next, rfl, -, lengths, -⟩ := success rfl
  obtain ⟨old, entries, source, held, length⟩ := lengths [.field "traffic_rules"] 0 (by decide)
  refine ⟨lists, _, few, (rounds _ _).mpr ⟨rfl, rfl⟩, text, entries, held, ?_⟩
  obtain there | ⟨missing, -⟩ := source
  · cases there
    exact length
  · cases missing

/-- An assignment that fails changes nothing but the form. The form has got the next entries of
lists that the path leads through, where the appends of these entries succeed one after the other,
and it still holds all that it held off the path. It is the same as before just when the next entry
of a list is not the first thing that it lacks. -/
theorem assign_failed (resource : Resource) (session last : Session) (path : Path) (raw : String)
    (error : CommandError) (isOpen : session.closed = false)
    (failed : (assign resource path raw).run.run session = (.error error, last)) :
    ∃ (lists : List Path) (grown : Record), last = { session with model := grown } ∧
      lists.foldlM (Record.append session.schema) session.model = .ok grown ∧
      (∀ list ∈ lists, ∃ position, list.entry position <+: path) ∧
      (grown = session.model ↔
        ∀ list length, ¬ Record.LacksEntry session.schema session.model path list length) ∧
      ∀ other held, ¬ other <+: path → session.model.at? other = some held →
        grown.at? other = some held := by
  obtain ⟨lists, grown, extension, few⟩ := Record.exists_extends session.schema session.model path
  rw [run_assign isOpen extension few, outcome] at failed
  refine ⟨lists, grown, ?_, extension.foldlM_append, extension.entry_prefix, extension.eq_iff,
    fun other held => extension.at?_of_at?⟩
  cases set : grown.setScalar session.schema path raw with
  | ok next =>
      rw [set] at failed
      cases failed
  | error reason =>
      rw [set] at failed
      exact (congrArg Prod.snd failed).symm

/-- The sixth subscriber of the first rule cannot be set where there is no rule yet, but the rule is
there then. -/
theorem assign_leaves_rule :
    let session := Session.create .trafficPolicy "/traffic_policies"
    session.schema = Resource.trafficPolicy.schema ∧ session.closed = false ∧
      Path.ofUser "traffic_rules[0].source.gtp_filter.imsis[5]" = .ok (subscriberPath 5) ∧
      ∃ error last,
        (assign .trafficPolicy (subscriberPath 5) "001").run.run session = (.error error, last) ∧
          session.model.at? [.field "traffic_rules"] = some (.list []) ∧
          last.model.at? [.field "traffic_rules"] =
            some (.list [.record [("description", .text "")]]) ∧
          last.model ≠ session.model := by
  refine ⟨rfl, rfl, ofUser_subscriberPath (by decide) (by decide), _, _, rfl, rfl, rfl, ?_⟩
  intro same
  have rules := congrArg (fun model : Record => model.at? [.field "traffic_rules"]) same
  cases rules

theorem assign_failed_subscriber :
    let session := Session.create .trafficPolicy "/traffic_policies"
    ∃ (error : CommandError) (last : Session) (lists : List Path),
      (assign .trafficPolicy (subscriberPath 5) "001").run.run session = (.error error, last) ∧
        lists.foldlM (Record.append session.schema) session.model = .ok last.model ∧
        last.model.at? [.field "traffic_rules"] =
          some (.list [.record [("description", .text "")]]) := by
  intro session
  obtain ⟨error, last, failed, rules⟩ : ∃ error last,
      (assign .trafficPolicy (subscriberPath 5) "001").run.run session = (.error error, last) ∧
        last.model.at? [.field "traffic_rules"] =
          some (.list [.record [("description", .text "")]]) := ⟨_, _, rfl, rfl⟩
  obtain ⟨lists, grown, rfl, appends, -⟩ := assign_failed _ session last _ _ error rfl failed
  exact ⟨error, _, lists, failed, appends, rules⟩

end Editing

end ResourceEditor
