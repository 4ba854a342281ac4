import ResourceEditor.Proofs.Controller.Transcript
import ResourceEditor.Proofs.Edit.Normalization
import ResourceEditor.Proofs.Json.Reading
import ResourceEditor.Proofs.Value.Reread
import ResourceEditor.Schema.Catalog
/-
This file compares the form of a session that is loaded from the controller with the form that is
read from the same document at once. They are the same just when every number of the document fits
into a form.
-/

namespace ResourceEditor

/-- If leaving entries out does not show, none is left out and none has changed. -/
theorem forall_mem_of_map_filterMap {α β : Type} {again : α → Option α} {view : α → β}
    {entries : List α} (same : (entries.filterMap again).map view = entries.map view) :
    ∀ entry ∈ entries, ∃ other, again entry = some other ∧ view other = view entry := by
  induction entries with
  | nil => exact List.forall_mem_nil _
  | cons entry rest ih =>
      rw [List.filterMap_cons] at same
      cases kept : again entry with
      | none =>
          rw [kept] at same
          have lengths := congrArg List.length same
          have shorter := List.length_filterMap_le again rest
          simp only [List.length_map, List.length_cons] at lengths
          omega
      | some other =>
          rw [kept] at same
          obtain ⟨here, later⟩ := List.cons.inj same
          exact List.forall_mem_cons.mpr ⟨⟨other, kept, here⟩, ih later⟩

section Marks

variable {field : Field} {schema : Schema} {name : String} {members : Record} {value : Value}

/-- A value is the same to a field when it is read again only if it has no marks. -/
def Value.Tells (value : Value) : Prop :=
  ∀ field : Field, field.isDistinct = true → ∀ again, value.reread = some again →
    field.normalize again = field.normalize value → value.isMarkless = true

/-- The entries of a dynamic list that become none when they are read again are told from a seed. -/
theorem Field.normalize_seed_ne {item : Field} {entries : List Value}
    (shape : field.shape = .list item true) (some : entries ≠ [])
    (lost : entries.filterMap Value.reread = []) :
    field.normalize (.list [item.templateEntry]) ≠ field.normalize (.list entries) := by
  rw [normalize_list shape, normalize_list shape]
  intro same
  obtain ⟨first, rest, rfl⟩ := List.exists_cons_of_ne_nil some
  have gone : first.reread = none := List.filterMap_eq_nil_iff.mp lost first List.mem_cons_self
  have seed := (List.cons.inj (Value.list.inj same)).1
  rw [(Value.reread_eq_none_iff first).mp gone, Value.notANumber, normalize_mark] at seed
  exact item.normalize_startEntry_ne .template seed

theorem Value.isMarkless_of_seeded (tells : value.Tells) (distinct : field.isDistinct = true)
    (found : Members.get? members name = some value)
    (again : Members.get? (Members.choose reread members) name = value.reread)
    (same : (Members.get? (field.seed name (Members.choose reread members)) name).map
      field.normalize = (Members.get? (field.seed name members) name).map field.normalize) :
    value.isMarkless = true := by
  cases dynamic : field.isDynamicList with
  | false =>
      simp only [Field.get?_seed, dynamic, Bool.false_and, Bool.false_eq_true, if_false, found,
        again] at same
      obtain ⟨other, read, eq⟩ := Option.map_eq_some_iff.mp same
      exact tells field distinct other read eq
  | true =>
      obtain ⟨item, shape⟩ := Field.of_isDynamicList dynamic
      rw [Field.get?_seed_list shape, Field.get?_seed_list shape, Record.lacksEntries,
        Record.lacksEntries, found, again] at same
      cases value with
      | number number =>
          cases number with
          | int integer => rfl
          | notANumber =>
              -- The mark is gone, so that a seed takes its place.
              have seeded : field.normalize (.list [item.templateEntry]) =
                field.normalize (.number .notANumber) := Option.some.inj same
              rw [Field.normalize_list shape, Field.normalize_mark] at seeded
              cases seeded
      | list entries =>
          rw [reread_list] at same
          cases entries with
          | nil => rfl
          | cons first rest =>
              cases kept : (first :: rest).filterMap reread with
              | nil =>
                  rw [kept] at same
                  exact absurd (Option.some.inj same)
                    (Field.normalize_seed_ne shape (List.cons_ne_nil first rest) kept)
              | cons entry others =>
                  rw [kept] at same
                  refine tells field distinct (.list (entry :: others)) ?_ (Option.some.inj same)
                  rw [reread_list, kept]
      | record inner =>
          rw [reread_record] at same
          exact tells field distinct _ (reread_record inner) (Option.some.inj same)
      | _ => rfl

/-- If a record is the same to a schema when it is read again, its members have no marks. -/
theorem Value.areMarkless_of_normalize (distinct : schema.isDistinct = true)
    (names : (Members.names members).Nodup) (each : ∀ pair ∈ members, pair.2.Tells)
    (same : schema.normalize (Members.choose reread members) = schema.normalize members) :
    ∀ pair ∈ members, pair.2.isMarkless = true := by
  rintro ⟨name, value⟩ member
  have found := Members.get?_of_mem names member
  have again : Members.get? (Members.choose reread members) name = value.reread := by
    rw [Members.get?_choose names, found, Option.bind_some]
  have held : Members.get? (schema.normalize (Members.choose reread members)) name =
    Members.get? (schema.normalize members) name := congrArg (Members.get? · name) same
  cases declared : schema.field? name with
  | none =>
      rw [Schema.get?_normalize_of_undeclared declared,
        Schema.get?_normalize_of_undeclared declared, again, found] at held
      exact isMarkless_reread value value held
  | some field =>
      rw [Schema.get?_normalize distinct declared, Schema.get?_normalize distinct declared] at held
      exact isMarkless_of_seeded (each _ member) (Schema.isDistinct_of_field? distinct declared)
        found again held

theorem Value.tells (value : Value) (maps : value.isDistinct = true) : value.Tells := by
  refine descent (fun value => value.isDistinct = true → value.Tells) ?_ ?_ ?_ value maps
  · intro value scalar _ field _ again read _
    cases value with
    | number number =>
        cases number with
        | int integer => rfl
        | notANumber => cases read
    | record members => cases scalar
    | list entries => cases scalar
    | _ => rfl
  · intro members each maps field distinct again read same
    obtain ⟨names, inside⟩ := (isDistinct_record members).mp maps
    rw [reread_record, Option.some.injEq] at read
    subst read
    obtain ⟨title, readOnly, shape⟩ := field
    cases shape with
    | composite schema =>
        have tell : ∀ pair ∈ members, pair.2.Tells :=
          fun pair member => each pair member (inside pair member)
        exact (isMarkless_record members).mpr
          (areMarkless_of_normalize distinct names tell (Value.record.inj same))
    | scalar rule =>
        rw [Field.normalize_of_scalar _ _ _ rfl, Field.normalize_of_scalar _ _ _ rfl] at same
        exact isMarkless_reread _ (.record members)
          ((reread_record members).trans (congrArg some same))
    | list item dynamic =>
        exact isMarkless_reread _ (.record members)
          ((reread_record members).trans (congrArg some same))
  · intro entries each maps field distinct again read same
    have inside := (isDistinct_list entries).mp maps
    rw [reread_list, Option.some.injEq] at read
    subst read
    obtain ⟨title, readOnly, shape⟩ := field
    cases shape with
    | list item dynamic =>
        have listed := Value.list.inj same
        refine (isMarkless_list entries).mpr fun entry member => ?_
        obtain ⟨other, kept, eq⟩ := forall_mem_of_map_filterMap listed entry member
        exact each entry member (inside entry member) item distinct other kept eq
    | scalar rule =>
        rw [Field.normalize_of_scalar _ _ _ rfl, Field.normalize_of_scalar _ _ _ rfl] at same
        exact isMarkless_reread _ (.list entries)
          ((reread_list entries).trans (congrArg some same))
    | composite schema =>
        exact isMarkless_reread _ (.list entries)
          ((reread_list entries).trans (congrArg some same))

end Marks

/-- A form is the same after a trip through its document just if it has no marks. -/
theorem Record.normalize_choose_eq_iff {schema : Schema} {model : Record}
    (distinct : schema.isDistinct = true) (maps : model.isDistinct = true) :
    schema.normalize (Members.choose Value.reread model) = schema.normalize model ↔
      (Value.record model).isMarkless = true := by
  constructor
  · intro same
    obtain ⟨names, inside⟩ := (Value.isDistinct_record model).mp maps
    have tell : ∀ pair ∈ model, pair.2.Tells :=
      fun pair member => pair.2.tells (inside pair member)
    exact (Value.isMarkless_record model).mpr
      (Value.areMarkless_of_normalize distinct names tell same)
  · intro markless
    rw [Value.choose_reread markless]

/-- The members of the object that a request is answered with. -/
def Reply.members (reply : Reply) : List (String × Json) :=
  match reply.decode with
  | .ok (.object members) => members
  | _ => []

theorem Reply.decode_of_members {reply : Reply} (some : reply.members ≠ []) :
    reply.decode = .ok (.object reply.members) := by
  rw [members] at some ⊢
  generalize reply.decode = answer at some ⊢
  split at some
  · rfl
  · exact absurd rfl some

namespace Session

variable {schema : Schema} {path : String} {members : List (String × Json)}

theorem ofFetched_ofMembers (schema : Schema) (path : String) (members : List (String × Json)) :
    ofFetched schema path (Value.ofMembers members) =
      .ok (update schema path
        (schema.normalize (Value.ofMembers (Json.membersFitting members)))) := by
  have read : Record.ofResource schema (Record.toJson (Value.ofMembers members)) =
      .ok (schema.normalize (Value.ofMembers (Json.membersFitting members))) := by
    rw [Record.ofResource, Record.toJson, Record.ofJson, Value.ofMembers_toMembers_eq_choose,
      Value.ofMembers_fitting]
    rfl
  rw [ofFetched, read]

/-- Only an object opens a session. -/
theorem eq_of_opened {answer : Except RequestError Json} {session : Session}
    (opened : (Client.fetched path answer).bind (ofFetched schema path) = .ok session) :
    ∃ members, answer = .ok (.object members) ∧
      session = update schema path
        (schema.normalize (Value.ofMembers (Json.membersFitting members))) := by
  cases answer with
  | error error => cases opened
  | ok json =>
      cases json with
      | object members =>
          have same := (ofFetched_ofMembers schema path members).symm.trans opened
          exact ⟨members, rfl, (Except.ok.inj same).symm⟩
      | _ => cases opened

/-- A document passes through a form on its way into a session. -/
theorem run_load_object (controller : Controller) {client : Client} {request : Request}
    (asks : client.request .get path none = .ok request) {asked : List Request}
    (answered : (controller (asked ++ [request])).decode = .ok (.object members)) :
    (load controller.carrier client schema path).run asked =
      (.ok (update schema path
          (schema.normalize (Value.ofMembers (Json.membersFitting members)))),
        asked ++ [request]) := by
  rw [run_load, Client.run_exchange controller asked asks, answered]
  exact congrArg (·, asked ++ [request]) (ofFetched_ofMembers schema path members)

/-- The form that is loaded is the one that the document gives without the numbers that do not fit.
It is the one that the document itself gives just if every number of the document fits. -/
theorem load_reads (distinct : schema.isDistinct = true) (client : Client) {request : Request}
    (asks : client.request .get path none = .ok request) (controller : Controller)
    (asked : List Request)
    (answered : (controller (asked ++ [request])).decode = .ok (.object members)) :
    ∃ model,
      (load controller.carrier client schema path).run asked =
        (.ok (update schema path model), asked ++ [request]) ∧
      Record.ofResource schema (.object (Json.membersFitting members)) = .ok model ∧
      (Record.ofResource schema (.object members) = .ok model ↔
        (Json.object members).fits = true) := by
  refine ⟨_, run_load_object controller asks answered, rfl, ?_⟩
  have maps : (Value.record (Value.ofMembers members)).isDistinct = true :=
    Value.isDistinct_ofJson (.object members) (Reply.isDistinct_of_decode answered) _ rfl
  have markless := Value.isMarkless_ofJson (.object members) _ rfl
  rw [← markless, ← Record.normalize_choose_eq_iff distinct maps, ← Value.ofMembers_fitting]
  exact ⟨fun same => (Except.ok.inj same).symm, fun same => congrArg Except.ok same.symm⟩

section Lab

/-- A client in a lab, where nobody has to sign in. -/
def labClient : Client :=
  ⟨⟨"http", some ⟨"", "", "[::1]", none⟩, .segments [""], none, none⟩, none⟩

def labPath : String := "/traffic_policies/tp-1"

/-- A policy with one rule, whose filter has a mask. -/
def labPolicy (mask : String) : Reply :=
  .answered 200 ("\x7b\"name\":\"p\",\"traffic_rules\":[\x7b\"priority\":1,\"source\":\x7b" ++
    "\"ip_filter\":\x7b\"address\":\"10.0.0.1\",\"mask\":" ++ mask ++ "\x7d\x7d\x7d]\x7d")

/-- The lab's controller has this policy and nothing else. -/
def labController (mask : String) : Controller := fun _ => labPolicy mask

def labMask : Path :=
  [.field "traffic_rules", .index 0, .field "source", .field "ip_filter", .field "mask"]

theorem labClient_asks : ∃ request, labClient.request .get labPath none = .ok request :=
  ok_of_isOk (by decide +kernel)

theorem labPolicy_load :
    ∃ request model, Schema.trafficPolicy.isDistinct = true ∧
      labClient.request .get labPath none = .ok request ∧
      (labPolicy "24").decode = .ok (.object (labPolicy "24").members) ∧
      (load (labController "24").carrier labClient .trafficPolicy labPath).run [] =
        (.ok (update .trafficPolicy labPath model), [request]) ∧
      Record.ofResource .trafficPolicy (.object (labPolicy "24").members) = .ok model := by
  obtain ⟨request, asks⟩ := labClient_asks
  have distinct : Schema.trafficPolicy.isDistinct = true := by decide
  obtain ⟨some, fits⟩ : (labPolicy "24").members ≠ [] ∧
      (Json.object (labPolicy "24").members).fits = true := by decide +kernel
  have answered := Reply.decode_of_members some
  obtain ⟨model, loaded, -, reads⟩ :=
    load_reads distinct labClient asks (labController "24") [] answered
  exact ⟨request, model, distinct, asks, answered, loaded, reads.mpr fits⟩

/-- A mask of more than 64 bits is a mark in the form that the document gives, which a submit would
report. The form that is loaded has no mask at all. -/
theorem labPolicy_misread :
    ∃ request read loaded, labClient.request .get labPath none = .ok request ∧
      (labPolicy "9223372036854775808").decode =
        .ok (.object (labPolicy "9223372036854775808").members) ∧
      Record.ofResource .trafficPolicy (.object (labPolicy "9223372036854775808").members) =
        .ok read ∧
      (load (labController "9223372036854775808").carrier labClient .trafficPolicy labPath).run [] =
        (.ok (update .trafficPolicy labPath loaded), [request]) ∧
      (read.at? labMask).any Value.isNaN = true ∧ loaded.at? labMask = none := by
  obtain ⟨request, asks⟩ := labClient_asks
  obtain ⟨some, marked, gone⟩ : (labPolicy "9223372036854775808").members ≠ [] ∧
      ((Schema.trafficPolicy.normalize
        (Value.ofMembers (labPolicy "9223372036854775808").members)).at? labMask).any
          Value.isNaN = true ∧
      ((Schema.trafficPolicy.normalize (Value.ofMembers
        (Json.membersFitting (labPolicy "9223372036854775808").members))).at? labMask).isNone =
          true := by decide +kernel
  have answered := Reply.decode_of_members some
  exact ⟨request, _, _, asks, answered, rfl, run_load_object _ asks answered, marked,
    Option.isNone_iff_eq_none.mp gone⟩

end Lab

end Session

end ResourceEditor
