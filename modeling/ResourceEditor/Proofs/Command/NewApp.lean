import Mathlib.Data.List.Forall2
import ResourceEditor.Command.Grammar
import ResourceEditor.Proofs.Command.Editing
import ResourceEditor.Proofs.Decimal.Spelling
import ResourceEditor.Proofs.Edit.Part
import ResourceEditor.Schema.Resource
/-
This file follows a new app through the flags that it is made from: each port and each feature
becomes an entry of its own, each other flag the value of a field.
-/

namespace ResourceEditor

/-! What flags describe. -/

/-- A port's number stands before the first slash and its protocol after it. -/
inductive PortEntry : String → Value → Prop where
  | number {raw : String} (whole : '/' ∉ raw.toList) :
      PortEntry raw (.record [("port", .number (Number.coerce raw)), ("protocol", .text "")])
  | pair {port protocol : String} (first : '/' ∉ port.toList) :
      PortEntry (port ++ "/" ++ protocol)
        (.record [("port", .number (Number.coerce port)),
          ("protocol", .text (Text.asciiLower protocol))])

/-- A feature's key stands before the first equality sign and its value after it. -/
inductive FeatureEntry : String → Value → Prop where
  | pair {key value : String} (first : '=' ∉ key.toList) :
      FeatureEntry (key ++ "=" ++ value) (.record [("key", .text key), ("value", .text value)])

/-- As many entries as texts, but one at least, and for each text one that it describes in the place
of the text. -/
def HasEntries (Describes : String → Value → Prop) (raws : List String) (entries : List Value) :
    Prop :=
  entries.length = max 1 raws.length ∧ ∀ (position : Nat) (raw : String),
    raws[position]? = some raw → ∃ entry, entries[position]? = some entry ∧ Describes raw entry

/-- The value that a text becomes in a field of an app. -/
def appValue (field raw : String) : Value :=
  if field = "cores" ∨ field = "memory" then .number (Number.coerce raw) else .text raw

/-! Texts around a separator. -/

theorem Text.bne_of_not_mem {separator : Char} {text : List Char} (absent : separator ∉ text) :
    ∀ c ∈ text, (c != separator) = true := by
  rintro c member
  refine bne_iff_ne.mpr ?_
  rintro rfl
  exact absent member

theorem Text.splitOnce_eq {separator : Char} {text before after : String}
    (split : text.toList = before.toList ++ separator :: after.toList)
    (first : separator ∉ before.toList) : splitOnce separator text = some (before, after) := by
  have apart : (before.toList ++ separator :: after.toList).span (· != separator) =
      (before.toList, separator :: after.toList) := by
    refine Decimal.span_append (bne_of_not_mem first) _ fun c begins => ?_
    obtain rfl : separator = c := Option.some.inj begins
    exact bne_self_eq_false separator
  rw [splitOnce, split, apart]
  simp only [String.ofList_toList]

theorem Text.splitOnce_of_not_mem {separator : Char} {text : String}
    (absent : separator ∉ text.toList) : splitOnce separator text = none := by
  have whole : (text.toList ++ []).span (· != separator) = (text.toList, []) :=
    Decimal.span_append (bne_of_not_mem absent) [] nofun
  rw [List.append_nil] at whole
  rw [splitOnce, whole]

theorem Text.exists_split {separator : Char} {text : String} (member : separator ∈ text.toList) :
    ∃ before after : String, text.toList = before.toList ++ separator :: after.toList ∧
      separator ∉ before.toList := by
  obtain ⟨before, after, split, absent⟩ := List.eq_append_cons_of_mem member
  refine ⟨String.ofList before, String.ofList after, ?_, ?_⟩
  · rw [String.toList_ofList, String.toList_ofList, split]
  · rwa [String.toList_ofList]

/-! Work that succeeds. -/

namespace Editing

/-- Work on a form that succeeds and makes another form of it. -/
def Makes (session : Session) (edits : Editing Unit) (model next : Record) : Prop :=
  edits.run.run { session with model } = (.ok (), { session with model := next })

variable {session : Session} {edits others : Editing Unit} {model between next grown : Record}
  {path list : Path} {raw : String} {resource : Resource}

theorem makes_pure : Makes session (pure ()) model model := rfl

theorem Makes.bind {later : Unit → Editing Unit} (first : Makes session edits model between)
    (second : Makes session (later ()) between next) :
    Makes session (edits >>= later) model next := by
  rw [Makes, ExceptT.run_bind, StateT.run_bind, first]
  exact second

theorem makes_assignWithin (isOpen : session.closed = false)
    (set : model.setScalar session.schema path raw = .ok next) (appends : Nat) :
    Makes session (assignWithin resource path raw appends) model next := by
  cases appends with
  | zero =>
      rw [Makes, assignWithin, run_attempt_bind _ _ isOpen, set]
      rfl
  | succ appends =>
      rw [Makes, assignWithin, run_attempt_bind _ _ isOpen, set]
      rfl

theorem makes_assign (isOpen : session.closed = false)
    (set : model.setScalar session.schema path raw = .ok next) :
    Makes session (assign resource path raw) model next :=
  makes_assignWithin isOpen set _

/-- Where the next entry of a list is missing, it is appended first. -/
theorem makes_assign_next (isOpen : session.closed = false) {length : Nat}
    (some : 0 < listCount path)
    (short : model.setScalar session.schema path raw = .error (.indexOutOfRange list length length))
    (appended : model.append session.schema list = .ok grown)
    (set : grown.setScalar session.schema path raw = .ok next) :
    Makes session (assign resource path raw) model next := by
  obtain ⟨appends, count⟩ := Nat.exists_eq_succ_of_ne_zero some.ne'
  have missing :
      missingEntry? (.error (.edit (.indexOutOfRange list length length))) = Option.some list :=
    if_pos rfl
  rw [Makes, assign, count, assignWithin, run_attempt_bind _ _ isOpen, short]
  simp only [missing]
  rw [run_attempt_bind _ _ isOpen, appended]
  exact makes_assignWithin isOpen set appends

end Editing

/-! Entries of a list of records. -/

/-- A list whose entries are records that start as a template and have a scalar of a name, which
texts are read for in a way. -/
structure EntryField (schema : Schema) (list : String) (template : Record) (name : String)
    (read : String → Value) : Prop where
  declared : ∃ field item dynamic,
    schema.route [.field list] = .ok [(.field list, field)] ∧ field.shape = .list item dynamic ∧
      field.nextEntry? = some (.record template) ∧ ∀ position, ∃ leaf rule,
        schema.route [.field list, .index position, .field name] =
            .ok [(.field list, field), (.index position, item), (.field name, leaf)] ∧
          leaf.shape = .scalar rule ∧ rule.read = read

namespace EntryField

variable {schema : Schema} {list name raw : String} {template members : Record}
  {read : String → Value} {model : Record} {filled seeded : List Value} {session : Session}

theorem setScalar_there (declared : EntryField schema list template name read) (raw : String)
    (held : Members.get? model list = some (.list (filled ++ [.record members]))) :
    model.setScalar schema [.field list, .index filled.length, .field name] raw =
      .ok (Members.set model list
        (.list (filled ++ [.record (Members.set members name (read raw))]))) := by
  obtain ⟨field, item, _, -, -, -, routes⟩ := declared
  obtain ⟨leaf, rule, routed, scalar, rfl⟩ := routes filled.length
  have last : (filled ++ [Value.record members])[filled.length]? = some (.record members) :=
    List.getElem?_concat_length
  have replaced (entry : Value) : (filled ++ [Value.record members]).set filled.length entry =
      filled ++ [entry] := by
    rw [List.set_append_right _ _ (Nat.le_refl _), Nat.sub_self]
    rfl
  rw [Record.setScalar_eq model routed rfl scalar]
  simp only [Record.update, Record.memberOrBlank, held, Option.getD_some, Value.update, last,
    replaced, bind, Except.bind, pure, Except.pure]

theorem setScalar_short (declared : EntryField schema list template name read)
    (held : Members.get? model list = some (.list filled)) :
    model.setScalar schema [.field list, .index filled.length, .field name] raw =
      .error (.indexOutOfRange [.field list] filled.length filled.length) := by
  obtain ⟨field, item, _, -, -, -, routes⟩ := declared
  obtain ⟨leaf, rule, routed, scalar, rfl⟩ := routes filled.length
  rw [Record.setScalar_eq model routed rfl scalar]
  simp only [Record.update, Record.memberOrBlank, held, Option.getD_some, Value.update,
    List.getElem?_eq_none (Nat.le_refl _), bind, Except.bind]

theorem append_ok (declared : EntryField schema list template name read)
    (held : Members.get? model list = some (.list filled)) :
    model.append schema [.field list] =
      .ok (Members.set model list (.list (filled ++ [.record template]))) := by
  obtain ⟨field, item, _, routed, shape, grows, -⟩ := declared
  have listed : Record.listRoute schema [.field list] = .ok ([(.field list, field)], field) := by
    rw [Record.listRoute, routed]
    simp [bind, Except.bind, Route.leaf?, Field.item?, shape]
    rfl
  rw [Record.append_eq model listed shape grows]
  simp only [Record.update, Record.memberOrBlank, held, Option.getD_some, Value.update, Record.push,
    bind, Except.bind, pure, Except.pure]

open Editing AppOptions

/-- The first field that is set of an entry starts from the template, which is there already or
is appended. -/
theorem makes_first (declared : EntryField session.schema list template name read)
    (isOpen : session.closed = false) (seed : seeded = [] ∨ seeded = [.record template])
    (held : Members.get? model list = some (.list (filled ++ seeded))) :
    Makes session (assignEntry list filled.length name raw) model (Members.set model list
      (.list (filled ++ [.record (Members.set template name (read raw))]))) := by
  rcases seed with rfl | rfl
  · rw [List.append_nil] at held
    have grown : Members.get? (Members.set model list (.list (filled ++ [.record template]))) list =
        some (.list (filled ++ [.record template])) := by
      rw [Members.get?_set, if_pos rfl]
    have set := declared.setScalar_there raw grown
    rw [Members.set_set] at set
    exact makes_assign_next isOpen Nat.one_pos (declared.setScalar_short held)
      (declared.append_ok held) set
  · exact makes_assign isOpen (declared.setScalar_there raw held)

theorem makes_later (declared : EntryField session.schema list template name read)
    (isOpen : session.closed = false) :
    Makes session (assignEntry list filled.length name raw)
      (Members.set model list (.list (filled ++ [.record members])))
      (Members.set model list
        (.list (filled ++ [.record (Members.set members name (read raw))]))) := by
  have held : Members.get? (Members.set model list (.list (filled ++ [.record members]))) list =
      some (.list (filled ++ [.record members])) := by
    rw [Members.get?_set, if_pos rfl]
  have set := declared.setScalar_there raw held
  rw [Members.set_set] at set
  exact makes_assign isOpen set

end EntryField

/-! Ports and features. -/

namespace AppOptions

open Editing

def portTemplate : Record := [("port", .int 0), ("protocol", .text "")]

def featureTemplate : Record := [("key", .text ""), ("value", .text "")]

theorem port_declared : EntryField Schema.app "ports" portTemplate "port"
    fun raw => .number (Number.coerce raw) :=
  ⟨_, _, _, rfl, rfl, rfl, fun _ => ⟨_, _, rfl, rfl, rfl⟩⟩

theorem protocol_declared : EntryField Schema.app "ports" portTemplate "protocol" .text :=
  ⟨_, _, _, rfl, rfl, rfl, fun _ => ⟨_, _, rfl, rfl, rfl⟩⟩

theorem key_declared : EntryField Schema.app "epafeatures" featureTemplate "key" .text :=
  ⟨_, _, _, rfl, rfl, rfl, fun _ => ⟨_, _, rfl, rfl, rfl⟩⟩

theorem value_declared : EntryField Schema.app "epafeatures" featureTemplate "value" .text :=
  ⟨_, _, _, rfl, rfl, rfl, fun _ => ⟨_, _, rfl, rfl, rfl⟩⟩

/-- Work on entry after entry of a list: each text makes an entry that it describes, from the
template or at the end of the list. -/
def MakesEntries (session : Session) (list : String) (template : Record)
    (edit : String → Nat → Editing Unit) (Describes : String → Value → Prop) (raw : String) :
    Prop :=
  ∀ {model : Record} {filled seeded : List Value},
    seeded = [] ∨ seeded = [.record template] →
      Members.get? model list = some (.list (filled ++ seeded)) → ∃ entry, Describes raw entry ∧
        Makes session (edit raw filled.length) model
          (Members.set model list (.list (filled ++ [entry])))

variable {session : Session} {list : String} {template : Record}
  {edit : String → Nat → Editing Unit} {Describes : String → Value → Prop}

theorem makes_entries_after {raws : List String}
    (each : ∀ raw ∈ raws, MakesEntries session list template edit Describes raw)
    {model : Record} {filled : List Value} (held : Members.get? model list = some (.list filled)) :
    ∃ entries, List.Forall₂ Describes raws entries ∧
      Makes session ((raws.zipIdx filled.length).forM fun (raw, position) => edit raw position)
        model (Members.set model list (.list (filled ++ entries))) := by
  induction raws generalizing model filled with
  | nil =>
      refine ⟨[], .nil, ?_⟩
      rw [List.append_nil, Members.set_of_get? held]
      exact makes_pure
  | cons raw raws ih =>
      obtain ⟨here, others⟩ := List.forall_mem_cons.mp each
      rw [← List.append_nil filled] at held
      obtain ⟨entry, described, made⟩ := here (.inl rfl) held
      have grown : Members.get? (Members.set model list (.list (filled ++ [entry]))) list =
          some (.list (filled ++ [entry])) := by
        rw [Members.get?_set, if_pos rfl]
      obtain ⟨entries, rest, later⟩ := ih others grown
      refine ⟨entry :: entries, .cons described rest, ?_⟩
      rw [Members.set_set, List.append_assoc, List.length_append] at later
      exact made.bind later

theorem hasEntries_of_forall₂ {raws : List String} {entries : List Value}
    (describes : List.Forall₂ Describes raws entries) (nonempty : raws ≠ []) :
    HasEntries Describes raws entries := by
  have enough : 1 ≤ raws.length := List.length_pos_iff.mpr nonempty
  refine ⟨describes.length_eq.symm.trans (Nat.max_eq_right enough).symm,
    fun position raw there => ?_⟩
  obtain ⟨within, rfl⟩ := List.getElem?_eq_some_iff.mp there
  have reached : position < entries.length := describes.length_eq ▸ within
  exact ⟨_, List.getElem?_eq_getElem reached, describes.get within reached⟩

/-- The first text makes an entry of the template that is there, and each later one an entry of its
own. -/
theorem makes_entries {raws : List String}
    (each : ∀ raw ∈ raws, MakesEntries session list template edit Describes raw)
    {model : Record} (held : Members.get? model list = some (.list [.record template])) :
    ∃ entries, HasEntries Describes raws entries ∧ (raws = [] → entries = [.record template]) ∧
      Makes session (raws.zipIdx.forM fun (raw, position) => edit raw position) model
        (Members.set model list (.list entries)) := by
  cases raws with
  | nil =>
      refine ⟨[.record template], ⟨rfl, nofun⟩, fun _ => rfl, ?_⟩
      rw [Members.set_of_get? held]
      exact makes_pure
  | cons raw raws =>
      obtain ⟨here, others⟩ := List.forall_mem_cons.mp each
      have seeded : Members.get? model list = some (.list ([] ++ [.record template])) := held
      obtain ⟨entry, described, made⟩ := here (.inr rfl) seeded
      have grown : Members.get? (Members.set model list (.list [entry])) list =
          some (.list [entry]) := by
        rw [Members.get?_set, if_pos rfl]
      obtain ⟨entries, rest, later⟩ := makes_entries_after others grown
      rw [Members.set_set] at later
      exact ⟨entry :: entries, hasEntries_of_forall₂ (.cons described rest) nofun, nofun,
        made.bind later⟩

variable (isOpen : session.closed = false) (isApp : session.schema = Schema.app)

include isOpen isApp in
theorem makes_port (raw : String) :
    MakesEntries session "ports" portTemplate assignPort PortEntry raw := by
  intro model filled seeded seed held
  have port := (isApp ▸ port_declared : EntryField session.schema _ _ _ _)
  have protocol := (isApp ▸ protocol_declared : EntryField session.schema _ _ _ _)
  by_cases slash : '/' ∈ raw.toList
  · obtain ⟨number, after, split, first⟩ := Text.exists_split slash
    obtain rfl : raw = number ++ "/" ++ after := String.toList_inj.mp (by simp [split])
    refine ⟨_, .pair first, ?_⟩
    rw [assignPort, readPort, Text.splitOnce_eq split first]
    exact (port.makes_first isOpen seed held).bind (protocol.makes_later isOpen)
  · refine ⟨_, .number slash, ?_⟩
    rw [assignPort, readPort, Text.splitOnce_of_not_mem slash]
    exact (port.makes_first isOpen seed held).bind makes_pure

include isOpen isApp in
theorem makes_feature {raw : String} (sign : '=' ∈ raw.toList) :
    MakesEntries session "epafeatures" featureTemplate assignFeature FeatureEntry raw := by
  intro model filled seeded seed held
  have key := (isApp ▸ key_declared : EntryField session.schema _ _ _ _)
  have value := (isApp ▸ value_declared : EntryField session.schema _ _ _ _)
  obtain ⟨name, after, split, first⟩ := Text.exists_split sign
  obtain rfl : raw = name ++ "=" ++ after := String.toList_inj.mp (by simp [split])
  refine ⟨_, .pair first, ?_⟩
  rw [assignFeature, readFeature, Text.splitOnce_eq split first]
  exact (key.makes_first isOpen seed held).bind (value.makes_later isOpen)

/-! The flags of a new app. -/

theorem setScalar_appField (model : Record) (raw : String) :
    ∀ pair ∈ Flag.appFields, model.setScalar Schema.app [.field pair.2] raw =
      .ok (Members.set model pair.2 (appValue pair.2 raw)) := by
  simp only [Flag.appFields, List.forall_mem_cons, appValue]
  refine ⟨rfl, rfl, rfl, rfl, rfl, rfl, rfl, rfl, nofun⟩

include isOpen in
/-- Each flag that is given sets its field, and nothing else is set. -/
theorem makes_given (given : Given) {pairs : List (String × String)}
    (distinct : (pairs.map Prod.snd).Nodup)
    (declared : ∀ (model : Record) (raw : String), ∀ pair ∈ pairs,
      model.setScalar session.schema [.field pair.2] raw =
        .ok (Members.set model pair.2 (appValue pair.2 raw))) (model : Record) :
    ∃ next,
      Makes session ((pairs.filterMap fun (flag, field) => (given.last? flag).map (field, ·)).forM
        fun (field, raw) => assignField field raw) model next ∧
      (∀ flag field raw, (flag, field) ∈ pairs → given.last? flag = some raw →
        Members.get? next field = some (appValue field raw)) ∧
      ∀ name, (∀ flag, (flag, name) ∈ pairs → given.last? flag = none) →
        Members.get? next name = Members.get? model name := by
  induction pairs generalizing model with
  | nil => exact ⟨model, makes_pure, nofun, fun _ _ => rfl⟩
  | cons pair pairs ih =>
      obtain ⟨flag, field⟩ := pair
      obtain ⟨fresh, distinct⟩ := List.nodup_cons.mp distinct
      have apart {other name : String} (member : (other, name) ∈ pairs) : name ≠ field := by
        rintro rfl
        exact fresh (List.mem_map.mpr ⟨_, member, rfl⟩)
      have later (model : Record) := ih distinct (fun model raw pair member =>
        declared model raw pair (List.mem_cons_of_mem _ member)) model
      cases told : given.last? flag with
      | none =>
          obtain ⟨next, made, set, kept⟩ := later model
          refine ⟨next, ?_, fun other name raw member some => ?_, fun name untold => ?_⟩
          · simp only [List.filterMap_cons, told, Option.map_none]
            exact made
          · rcases List.mem_cons.mp member with same | member
            · cases same
              cases told.symm.trans some
            · exact set other name raw member some
          · exact kept name fun other member => untold other (List.mem_cons_of_mem _ member)
      | some raw =>
          have first : Makes session (assignField field raw) model
              (Members.set model field (appValue field raw)) :=
            makes_assign isOpen (declared model raw _ List.mem_cons_self)
          obtain ⟨next, made, set, kept⟩ := later (Members.set model field (appValue field raw))
          refine ⟨next, ?_, fun other name text member some => ?_, fun name untold => ?_⟩
          · simp only [List.filterMap_cons, told, Option.map_some]
            exact first.bind made
          · rcases List.mem_cons.mp member with same | member
            · cases same
              cases told.symm.trans some
              rw [kept field fun other member => absurd rfl (apart member), Members.get?_set,
                if_pos rfl]
            · exact set other name text member some
          · have differ : field ≠ name := by
              rintro rfl
              cases told.symm.trans (untold flag List.mem_cons_self)
            rw [kept name fun other member => untold other (List.mem_cons_of_mem _ member),
              Members.get?_set, if_neg differ]

/-- What the flags of a new app make of its form. -/
theorem fillIn_exact (given : Given) (path : String)
    (signed : ∀ raw ∈ given.every "feature", '=' ∈ raw.toList) :
    ∃ model ports features,
      (AppOptions.ofGiven given).fillIn.run.run (Session.create Resource.app.schema path) =
        (.ok (), { Session.create Resource.app.schema path with model }) ∧
      Members.get? model "ports" = some (.list ports) ∧
      HasEntries PortEntry (given.every "port") ports ∧
      Members.get? model "epafeatures" = some (.list features) ∧
      HasEntries FeatureEntry (given.every "feature") features ∧
      (∀ flag field raw, (flag, field) ∈ Flag.appFields → given.last? flag = some raw →
        Members.get? model field = some (appValue field raw)) ∧
      ∀ name, (∀ flag, (flag, name) ∈ Flag.appFields → given.last? flag = none) →
        (name = "ports" → given.every "port" = []) →
        (name = "epafeatures" → given.every "feature" = []) →
        Members.get? model name = Members.get? Resource.app.schema.blankRecord name := by
  have isOpen : (Session.create Resource.app.schema path).closed = false := rfl
  have isApp : (Session.create Resource.app.schema path).schema = Schema.app := rfl
  have distinct : (Flag.appFields.map Prod.snd).Nodup := by decide
  have undeclared {list : String} (other : list ∉ Flag.appFields.map Prod.snd) (flag : String)
      (member : (flag, list) ∈ Flag.appFields) : given.last? flag = none :=
    absurd (List.mem_map.mpr ⟨_, member, rfl⟩) other
  obtain ⟨filled, madeFields, set, kept⟩ :=
    makes_given isOpen given distinct setScalar_appField Resource.app.schema.blankRecord
  have seededPorts : Members.get? filled "ports" = some (.list [.record portTemplate]) :=
    kept "ports" (undeclared (by decide))
  obtain ⟨ports, describedPorts, noPorts, madePorts⟩ :=
    makes_entries (fun raw _ => makes_port isOpen isApp raw) seededPorts
  have seededFeatures : Members.get? (Members.set filled "ports" (.list ports)) "epafeatures" =
      some (.list [.record featureTemplate]) := by
    rw [Members.get?_set, if_neg (by decide)]
    exact kept "epafeatures" (undeclared (by decide))
  obtain ⟨features, describedFeatures, noFeatures, madeFeatures⟩ :=
    makes_entries (fun raw member => makes_feature isOpen isApp (signed raw member)) seededFeatures
  refine ⟨Members.set (Members.set filled "ports" (.list ports)) "epafeatures" (.list features),
    ports, features, madeFields.bind (madePorts.bind madeFeatures), ?_, describedPorts, ?_,
    describedFeatures, fun flag field raw member told => ?_, fun name untold bare plain => ?_⟩
  · rw [Members.get?_set, if_neg (by decide), Members.get?_set, if_pos rfl]
  · rw [Members.get?_set, if_pos rfl]
  · have apart {list : String} (other : list ∉ Flag.appFields.map Prod.snd) : list ≠ field := by
      rintro rfl
      exact other (List.mem_map.mpr ⟨_, member, rfl⟩)
    rw [Members.get?_set, if_neg (apart (by decide)), Members.get?_set,
      if_neg (apart (by decide)), set flag field raw member told]
  · rw [Members.get?_set, Members.get?_set]
    split
    next same =>
      rw [noFeatures (plain same.symm), ← same]
      rfl
    next =>
      split
      next same =>
        rw [noPorts (bare same.symm), ← same]
        rfl
      next => exact kept name untold

/-- Two ports, a feature with a second equality sign, and a number of cores. -/
theorem fillIn_exact_given :
    ∃ model,
      (AppOptions.ofGiven [("port", "80/TCP"), ("cores", "2"), ("port", "53"),
          ("feature", "a=b=c")]).fillIn.run.run (Session.create Resource.app.schema "/apps") =
        (.ok (), { Session.create Resource.app.schema "/apps" with model }) ∧
      Members.get? model "cores" = some (.int 2) := by
  obtain ⟨model, _, _, ran, _, _, _, _, set, _⟩ :=
    fillIn_exact [("port", "80/TCP"), ("cores", "2"), ("port", "53"), ("feature", "a=b=c")] "/apps"
      (by decide)
  exact ⟨model, ran, set "cores" "cores" "2" (by decide) rfl⟩

end AppOptions

end ResourceEditor
