import ResourceEditor.Command.Run
import ResourceEditor.Proofs.Controller.Transcript
/-
This file says what can be seen of a command from outside: how it ends, what it leaves behind, and
what it asks the controller.
-/

namespace ResourceEditor

/-- What surrounds a run of a command. -/
structure World where
  options : GlobalOptions
  environment : Environment := []
  configPath : String := ""
  contentOf : String → Except FileFault String := fun _ => .error .missing
  controller : Controller

namespace World

def setting (world : World) : Setting (StateM (List Request)) where
  options := world.options
  environment := world.environment
  configPath := world.configPath
  contentOf := fun path => return world.contentOf path
  carrier := world.controller.carrier

/-- The same world, where the user has chosen another format for the output. -/
def showing (world : World) (format : OutputFormat) : World :=
  { world with options := { world.options with output := format } }

end World

/-- The result of an action and what it has changed, and all requests up to its end. -/
abbrev Observed (α : Type) := (Except CommandError α × Progress) × List Request

namespace Action

variable {α β : Type} {world : World} {progress : Progress} {asked : List Request}

def observe (action : Action (StateM (List Request)) α) (world : World) (progress : Progress)
    (asked : List Request) : Observed α :=
  ((action.run world.setting).run.run progress).run asked

theorem observe_pure (value : α) :
    (pure value : Action _ α).observe world progress asked = ((.ok value, progress), asked) := rfl

theorem observe_throw (error : CommandError) :
    (throw error : Action _ α).observe world progress asked = ((.error error, progress), asked) :=
  rfl

theorem observe_bind (action : Action (StateM (List Request)) α)
    (next : α → Action (StateM (List Request)) β) :
    (action >>= next).observe world progress asked =
      match action.observe world progress asked with
      | ((.ok value, left), log) => (next value).observe world left log
      | ((.error error, left), log) => ((.error error, left), log) := by
  simp only [observe, ReaderT.run_bind, ExceptT.run_bind, StateT.run_bind]
  obtain ⟨⟨result, left⟩, log⟩ := ((action.run world.setting).run.run progress).run asked
  cases result <;> rfl

theorem observe_read :
    (read : Action _ _).observe world progress asked = ((.ok world.setting, progress), asked) := rfl

theorem observe_get :
    (get : Action _ _).observe world progress asked = ((.ok progress, progress), asked) := rfl

theorem observe_config :
    (config : Action _ _).observe world progress asked =
      ((.ok (Config.loadOrDefault progress.document world.environment), progress), asked) := rfl

/-- What stands outside of the command answers. -/
theorem observe_lift (question : StateM (List Request) α) :
    (liftM question : Action _ α).observe world progress asked =
      ((.ok (question.run asked).1, progress), (question.run asked).2) := rfl

theorem observe_ask (question : Carrier (StateM (List Request)) → StateM (List Request) α) :
    (ask question).observe world progress asked =
      ((.ok ((question world.controller.carrier).run asked).1, progress),
        ((question world.controller.carrier).run asked).2) := rfl

theorem observe_orFail {ε : Type} (toError : ε → CommandError) (result : Except ε α) :
    (orFail toError result).observe world progress asked =
      ((result.mapError toError, progress), asked) := by
  cases result <;> rfl

/-- What a text leaves behind when it is printed. -/
def printed (text output : String) : String :=
  if text.isEmpty then output else output ++ text ++ "\n"

theorem observe_printAlways (text : String) :
    (printAlways text).observe world progress asked =
      ((.ok (), { progress with output := printed text progress.output }), asked) := by
  rw [printAlways, printed]
  cases text.isEmpty <;> rfl

theorem observe_options :
    (options : Action _ GlobalOptions).observe world progress asked =
      ((.ok world.options, progress), asked) := rfl

theorem observe_print (text : String) :
    (print text).observe world progress asked =
      ((.ok (), if world.options.quiet then progress
        else { progress with output := printed text progress.output }), asked) := by
  rw [print, observe_bind, observe_options]
  dsimp only
  cases world.options.quiet with
  | true => rfl
  | false => exact observe_printAlways text

theorem observe_present (view : View) :
    (present view).observe world progress asked =
      ((.ok (), if world.options.quiet then progress
        else { progress with
          output := printed (view.render world.options.output) progress.output }), asked) := by
  rw [present, observe_bind, observe_options]
  exact observe_print _

theorem observe_tell (line : String) :
    (tell line).observe world progress asked =
      ((.ok (), if world.options.quiet then progress
        else { progress with messages := progress.messages ++ line ++ "\n" }), asked) := by
  rw [tell, observe_bind, observe_options]
  dsimp only
  cases world.options.quiet <;> rfl

theorem observe_tellSuccess (message : String) :
    (tellSuccess message).observe world progress asked =
      ((.ok (), if world.options.quiet then progress
        else { progress with
          messages := progress.messages ++
            statusLine true message (usesColor world.options) ++ "\n" }), asked) := by
  rw [tellSuccess, observe_bind, observe_options]
  exact observe_tell _

theorem observe_failInvalid (resource : Resource) (violations : List Violation) :
    (failInvalid resource violations : Action _ α).observe world progress asked =
      ((.error (.invalid resource.schema.title violations.length),
        { progress with
          output := printed ((Violation.view violations).render world.options.output)
            progress.output }), asked) := by
  rw [failInvalid, observe_bind, observe_options]
  dsimp only
  rw [observe_bind, observe_printAlways]
  rfl

end Action

/-- What a command ends with, and all requests that it makes. -/
def Command.observe (command : Command) (world : World) (progress : Progress) :
    Outcome × List Request :=
  (command.run world.setting progress).run []

theorem Command.observe_eq (command : Command) (world : World) (progress : Progress) :
    command.observe world progress =
      let ((result, left), asked) := command.action.observe world progress []
      (⟨result, left⟩, asked) := rfl

/-- The connection that a command finds. -/
def World.connection (world : World) (progress : Progress) : Except CommandError Connection := do
  let (connection, settings) ←
    Connection.resolve world.options
      (Config.loadOrDefault progress.document world.environment) world.environment
      progress.keyring world.configPath
  let checked : Id (Except TrustFault Unit) := settings.check world.contentOf
  checked.run.mapError fun fault =>
    .connectionFailed connection.url.render (RequestError.tls fault.message).message
  return connection

theorem TransportSettings.run_check (settings : TransportSettings)
    (contentOf : String → Except FileFault String) (asked : List Request) :
    (settings.check fun path => (return contentOf path : StateM (List Request) _)).run asked =
      ((settings.check contentOf : Id (Except TrustFault Unit)).run, asked) := by
  rw [check, check]
  cases settings.trust <;> rfl

theorem Connection.observe_connect (world : World) (progress : Progress) (asked : List Request) :
    (connect : Action _ Connection).observe world progress asked =
      ((world.connection progress, progress), asked) := by
  simp only [connect, World.connection, Action.observe_bind, Action.observe_read,
    Action.observe_config, Action.observe_get, Action.observe_orFail, Action.observe_lift]
  cases found : resolve world.options (Config.loadOrDefault progress.document world.environment)
      world.environment progress.keyring world.configPath with
  | error error =>
      simp only [World.setting, found]
      rfl
  | ok pair =>
      simp only [World.setting, found, mapError_ok, TransportSettings.run_check, bind,
        Except.bind]
      cases (pair.2.check world.contentOf : Id (Except TrustFault Unit)).run <;> rfl

/-- The document in a file. -/
def World.document (world : World) (path : String) : Except CommandError Json := do
  let content ← (world.contentOf path).mapError fun fault => .io fault.message
  match Json.parse? content with
  | some json => return json
  | none => .error (.badValue "from-file" ("invalid JSON in " ++ path))

theorem Action.observe_readDocument (world : World) (path : String) (progress : Progress)
    (asked : List Request) :
    (readDocument path : Action _ Json).observe world progress asked =
      ((world.document path, progress), asked) := by
  have lifted : (world.setting.contentOf path).run asked = (world.contentOf path, asked) := rfl
  simp only [readDocument, World.document, observe_bind, observe_read, observe_lift,
    observe_orFail, lifted]
  cases world.contentOf path with
  | error fault => rfl
  | ok content =>
      simp only [mapError_ok, bind, Except.bind]
      cases Json.parse? content <;> rfl

/-- An action only looks: it changes and prints nothing, asks for nothing but what there is, and
does not care in which format something is shown. What it gives and the requests up to then are as
said. -/
def Action.Looks {α : Type} (action : Action (StateM (List Request)) α) (world : World)
    (progress : Progress) (asked : List Request) (gives : α → List Request → Prop) : Prop :=
  ∃ result fetches, (∀ request ∈ fetches, request.method = .get) ∧
    (∀ value, result = .ok value → gives value (asked ++ fetches)) ∧
    ∀ format, action.observe (world.showing format) progress asked =
      ((result, progress), asked ++ fetches)

namespace Action

variable {α β : Type} {world : World} {progress : Progress} {asked : List Request}
  {gives : α → List Request → Prop}

/-- An action that is the same in every format, asks nothing and changes nothing only looks. -/
theorem looks_of_observe {action : Action (StateM (List Request)) α}
    (result : Except CommandError α) (kind : ∀ value, result = .ok value → gives value asked)
    (still : ∀ format, action.observe (world.showing format) progress asked =
      ((result, progress), asked)) : action.Looks world progress asked gives := by
  refine ⟨result, [], List.forall_mem_nil _, ?_, fun format => ?_⟩
  · rw [List.append_nil]
    exact kind
  · rw [still format, List.append_nil]

theorem looks_pure {value : α} (kind : gives value asked) :
    (pure value : Action _ α).Looks world progress asked gives :=
  looks_of_observe (.ok value) (fun _ same => Except.ok.inj same ▸ kind) fun _ => observe_pure value

theorem looks_throw (error : CommandError) :
    (throw error : Action _ α).Looks world progress asked gives :=
  looks_of_observe (.error error) (fun _ same => (nomatch same)) fun _ => observe_throw error

theorem Looks.mono {action : Action (StateM (List Request)) α}
    {weaker : α → List Request → Prop} (looks : action.Looks world progress asked gives)
    (implies : ∀ value log, gives value log → weaker value log) :
    action.Looks world progress asked weaker := by
  obtain ⟨result, fetches, gets, kind, same⟩ := looks
  exact ⟨result, fetches, gets, fun value given => implies value _ (kind value given), same⟩

theorem Looks.bind {action : Action (StateM (List Request)) α}
    {next : α → Action (StateM (List Request)) β} {last : β → List Request → Prop}
    (first : action.Looks world progress asked gives)
    (later : ∀ value log, gives value log → (next value).Looks world progress log last) :
    (action >>= next).Looks world progress asked last := by
  obtain ⟨result, fetches, gets, kind, same⟩ := first
  cases result with
  | error error =>
      refine ⟨.error error, fetches, gets, fun _ same => (nomatch same), fun format => ?_⟩
      rw [observe_bind, same format]
  | ok value =>
      obtain ⟨final, others, later_gets, later_kind, later_same⟩ := later value _ (kind value rfl)
      refine ⟨final, fetches ++ others, ?_, ?_, fun format => ?_⟩
      · intro request member
        exact (List.mem_append.mp member).elim (gets request) (later_gets request)
      · rw [← List.append_assoc]
        exact later_kind
      · rw [observe_bind, same format]
        dsimp only
        rw [later_same format, List.append_assoc]

theorem looks_orFail {ε : Type} (toError : ε → CommandError) (result : Except ε α) :
    (orFail toError result : Action _ α).Looks world progress asked fun value log =>
      result = .ok value ∧ log = asked := by
  cases result with
  | ok value => exact looks_pure ⟨rfl, rfl⟩
  | error error => exact looks_throw (toError error)

/-- Who only fetches something from the controller only looks. -/
theorem looks_ask {question : Carrier (StateM (List Request)) → StateM (List Request) α}
    (answer : α) {fetches : List Request} (gets : ∀ request ∈ fetches, request.method = .get)
    (kind : gives answer (asked ++ fetches))
    (ran : (question world.controller.carrier).run asked = (answer, asked ++ fetches)) :
    (ask question).Looks world progress asked gives := by
  refine ⟨.ok answer, fetches, gets, fun _ same => Except.ok.inj same ▸ kind, fun format => ?_⟩
  have asks : (question (world.showing format).controller.carrier).run asked =
    (answer, asked ++ fetches) := ran
  rw [observe_ask, asks]

theorem looks_readDocument (path : String) :
    (readDocument path).Looks world progress asked fun _ log => log = asked :=
  looks_of_observe (world.document path) (fun _ _ => rfl)
    fun format => observe_readDocument (world.showing format) path progress asked

end Action

end ResourceEditor
