import Mathlib.Control.Monad.Basic
import Mathlib.Data.List.Basic
import ResourceEditor.Proofs.Command.Drafting
/-
This file follows the words of a controller that rejects a request to the error that the user sees.
-/

namespace ResourceEditor

namespace Text

/-- What is taken off the ends of a text is blank. -/
theorem exists_trimmed (text : List Char) :
    ∃ before after, text = before ++ trimChars text ++ after ∧
      (∀ c ∈ before, isBlank c = true) ∧ ∀ c ∈ after, isBlank c = true := by
  refine ⟨text.takeWhile isBlank, ((text.dropWhile isBlank).reverse.takeWhile isBlank).reverse,
    ?_, List.all_eq_true.mp List.all_takeWhile, fun c member => ?_⟩
  · rw [trimChars, dropLastWhile, List.append_assoc, ← List.reverse_append,
      List.takeWhile_append_dropWhile, List.reverse_reverse, List.takeWhile_append_dropWhile]
  · exact List.all_eq_true.mp List.all_takeWhile c (List.mem_reverse.mp member)

theorem isBlankText_trim (text : String) : isBlankText (trim text) = isBlankText text := by
  obtain ⟨before, after, whole, blankBefore, blankAfter⟩ := exists_trimmed text.toList
  have blanks := congrArg (List.all · isBlank) whole
  rw [List.all_append, List.all_append, List.all_eq_true.mpr blankBefore,
    List.all_eq_true.mpr blankAfter, Bool.true_and, Bool.and_true] at blanks
  rw [isBlankText, isBlankText, trim, String.toList_ofList, blanks]

end Text

/-- A reply is no success, and this is its body as it arrives. -/
def Reply.Rejects (reply : Reply) (status : Nat) (text : String) : Prop :=
  Status.isSuccess status = false ∧ ∃ body, reply = .answered status body ∧ text = textOf status body

/-- What the client says of its own about a rejected request for what is at a path. -/
def Reply.ownWords (path : String) (status : Nat) : String :=
  if status = 401 then "session expired or invalid token"
  else if status = 404 then "Resource '" ++ path ++ "' not found"
  else Failure.fallbackMessage

theorem Reply.isBlankText_ownWords (path : String) (status : Nat) :
    Text.isBlankText (ownWords path status) = false := by
  rw [ownWords]
  split
  · decide
  split
  · rw [Text.isBlankText, String.toList_append, String.toList_append, List.all_append,
      List.all_append, (by decide : "Resource '".toList.all Text.isBlank = false), Bool.false_and,
      Bool.false_and]
  · decide

/-- What a rejection comes to. -/
def Failure.ofRejection (status : Nat) (text : String) : Failure :=
  .server status
    (if status = 401 ∧ Text.isBlankText text then "session expired or invalid token"
      else Text.trim text)

theorem Reply.decode_of_rejects {reply : Reply} {status : Nat} {text : String}
    (rejects : reply.Rejects status text) :
    ∃ error, reply.decode = .error error ∧ error.toFailure = .ofRejection status text := by
  obtain ⟨fails, body, rfl, rfl⟩ := rejects
  rw [decode, Failure.ofRejection]
  by_cases expired : status = 401
  · subst expired
    refine ⟨_, rfl, ?_⟩
    cases blank : Text.isBlankText (textOf 401 body) <;> simp [RequestError.toFailure]
  · refine ⟨_, by rw [if_neg (by simpa using expired), if_pos (by simp [fails])], ?_⟩
    simp [RequestError.toFailure, expired]

namespace CommandError

/-- The words stand in what the error says. -/
def Says (error : CommandError) (words : String) : Prop :=
  words.toList <:+: error.message.toList

theorem says_of_message {error : CommandError} {before words : String}
    (message : error.message = before ++ words) : error.Says words := by
  rw [Says, message, String.toList_append]
  exact (List.suffix_append _ _).isInfix

/-- Every error of the controller says its words, but for the one that names what was not found. -/
theorem says_userMessage (url profile path body : String) {status : Nat} (found : status ≠ 404) :
    (ofFailure url profile path (.server status body)).Says (Failure.server status body).userMessage
    := by
  simp only [ofFailure, if_neg found]
  split
  · exact says_of_message rfl
  split
  · exact says_of_message rfl
  split
  · exact says_of_message rfl
  · exact says_of_message rfl

/-- The error of a rejection says the words of the controller, if it sent any and did not say that
there is nothing. Else it says the client's own. -/
theorem says_rejection (url profile path text : String) (status : Nat) :
    (ofFailure url profile path (.ofRejection status text)).Says
      (if status = 404 ∨ Text.isBlankText text then Reply.ownWords path status
        else Text.trim text) := by
  by_cases missing : status = 404
  · subst missing
    rw [if_pos (.inl rfl)]
    exact List.infix_refl _
  · have told := says_userMessage url profile path
      (if status = 401 ∧ Text.isBlankText text then "session expired or invalid token"
        else Text.trim text) missing
    rw [Failure.userMessage] at told
    rw [Failure.ofRejection, Reply.ownWords]
    cases blank : Text.isBlankText text with
    | false =>
        simpa [blank, missing, Text.isBlankText_trim] using told
    | true =>
        by_cases expired : status = 401
        · subst expired
          have words : Text.isBlankText "session expired or invalid token" = false := by decide
          simpa [blank, words] using told
        · simpa [blank, missing, expired, Text.isBlankText_trim] using told

end CommandError

/-- What the connection of a command hangs on has stayed the same. -/
def Progress.Leads (progress later : Progress) : Prop :=
  later.document = progress.document ∧ later.keyring = progress.keyring

theorem World.connection_congr {world : World} {progress later : Progress}
    (leads : progress.Leads later) : world.connection later = world.connection progress := by
  rw [connection, connection, leads.1, leads.2]

/-- Whatever has been done before, an action asks nothing. It leaves alone what a connection hangs
on, and gives what is said. -/
def Action.IsQuiet {α : Type} (action : Action (StateM (List Request)) α) (world : World)
    (progress : Progress) (gives : α → Prop) : Prop :=
  ∀ now asked, progress.Leads now →
    (action.observe world now asked).2 = asked ∧
    progress.Leads (action.observe world now asked).1.2 ∧
    ∀ value, (action.observe world now asked).1.1 = .ok value → gives value

/-- A run of an action gives up at a rejection: the request that is rejected is its last one, and it
fails with what that comes to on the connection of the command. -/
def Action.GivesUp {α : Type} (world : World) (progress : Progress) (asked : List Request)
    (seen : Observed α) : Prop :=
  ∃ more, seen.2 = asked ++ more ∧ ∀ log request status text, log ++ [request] <+: more →
    (world.controller (asked ++ log ++ [request])).Rejects status text →
      more = log ++ [request] ∧ ∃ connection path, world.connection progress = .ok connection ∧
        connection.client.request request.method path request.body = .ok request ∧
        seen.1.1 = .error (connection.error path (.ofRejection status text))

/-- Whatever has been done before, an action gives up at a rejection. It leaves alone what its
connection hangs on, and gives what is said. -/
def Action.Heeds {α : Type} (action : Action (StateM (List Request)) α) (world : World)
    (progress : Progress) (gives : α → Prop) : Prop :=
  ∀ now asked, progress.Leads now →
    GivesUp world progress asked (action.observe world now asked) ∧
    progress.Leads (action.observe world now asked).1.2 ∧
    ∀ value, (action.observe world now asked).1.1 = .ok value → gives value

namespace Action

variable {α β : Type} {world : World} {progress : Progress} {gives : α → Prop}

theorem isQuiet_pure {value : α} (given : gives value) :
    (pure value : Action _ α).IsQuiet world progress gives :=
  fun _ _ leads => ⟨rfl, leads, fun _ same => Except.ok.inj same ▸ given⟩

theorem isQuiet_throw (error : CommandError) :
    (throw error : Action _ α).IsQuiet world progress gives :=
  fun _ _ leads => ⟨rfl, leads, nofun⟩

theorem isQuiet_orFail {ε : Type} (toError : ε → CommandError) (result : Except ε α) :
    (orFail toError result).IsQuiet world progress fun _ => True := by
  intro now asked leads
  rw [observe_orFail]
  exact ⟨rfl, leads, fun _ _ => trivial⟩

theorem isQuiet_readDocument (path : String) :
    (readDocument path).IsQuiet world progress fun _ => True := by
  intro now asked leads
  rw [observe_readDocument]
  exact ⟨rfl, leads, fun _ _ => trivial⟩

theorem isQuiet_connect :
    (Connection.connect : Action _ Connection).IsQuiet world progress fun connection =>
      world.connection progress = .ok connection := by
  intro now asked leads
  rw [Connection.observe_connect, World.connection_congr leads]
  exact ⟨rfl, leads, fun _ found => found⟩

theorem isQuiet_present (view : View) : (present view).IsQuiet world progress fun _ => True := by
  intro now asked leads
  rw [observe_present]
  refine ⟨rfl, ?_, fun _ _ => trivial⟩
  cases world.options.quiet <;> exact leads

theorem isQuiet_tellSuccess (message : String) :
    (tellSuccess message).IsQuiet world progress fun _ => True := by
  intro now asked leads
  rw [observe_tellSuccess]
  refine ⟨rfl, ?_, fun _ _ => trivial⟩
  cases world.options.quiet <;> exact leads

theorem isQuiet_failInvalid (resource : Resource) (violations : List Violation) :
    (failInvalid resource violations : Action _ α).IsQuiet world progress gives := by
  intro now asked leads
  rw [observe_failInvalid]
  exact ⟨rfl, leads, nofun⟩

theorem IsQuiet.bind {action : Action (StateM (List Request)) α}
    {next : α → Action (StateM (List Request)) β} {last : β → Prop}
    (first : action.IsQuiet world progress gives)
    (later : ∀ value, gives value → (next value).IsQuiet world progress last) :
    (action >>= next).IsQuiet world progress last := by
  intro now asked leads
  obtain ⟨nothing, kept, given⟩ := first now asked leads
  rw [observe_bind]
  generalize action.observe world now asked = seen at nothing kept given ⊢
  obtain ⟨⟨result, left⟩, requests⟩ := seen
  dsimp only at nothing kept given ⊢
  subst nothing
  cases result with
  | error error => exact ⟨rfl, kept, nofun⟩
  | ok value => exact later value (given value rfl) left requests kept

theorem givesUp_quiet {asked : List Request} {seen : Observed α} (quiet : seen.2 = asked) :
    GivesUp world progress asked seen := by
  refine ⟨[], by rw [quiet, List.append_nil], fun log request _ _ never _ => ?_⟩
  cases log <;> cases List.prefix_nil.mp never

/-- An action that asks nothing heeds every controller. -/
theorem IsQuiet.heeds {action : Action (StateM (List Request)) α}
    (quiet : action.IsQuiet world progress gives) : action.Heeds world progress gives :=
  fun now asked leads => (quiet now asked leads).imp_left givesUp_quiet

/-- The second action goes on where the first one has succeeded, so none of the requests before was
rejected. -/
theorem Heeds.bind {action : Action (StateM (List Request)) α}
    {next : α → Action (StateM (List Request)) β} {last : β → Prop}
    (first : action.Heeds world progress gives)
    (later : ∀ value, gives value → (next value).Heeds world progress last) :
    (action >>= next).Heeds world progress last := by
  intro now asked leads
  obtain ⟨⟨more, log, ends⟩, kept, given⟩ := first now asked leads
  rw [observe_bind]
  generalize action.observe world now asked = seen at log ends kept given ⊢
  obtain ⟨⟨result, left⟩, requests⟩ := seen
  dsimp only at log ends kept given ⊢
  subst log
  cases result with
  | error error =>
      refine ⟨⟨more, rfl, fun before request status text early rejects => ?_⟩, kept, nofun⟩
      obtain ⟨same, connection, path, found, made, failed⟩ :=
        ends before request status text early rejects
      cases failed
      exact ⟨same, connection, path, found, made, rfl⟩
  | ok value =>
      have accepted (before : List Request) (request : Request) (status : Nat) (text : String)
          (early : before ++ [request] <+: more) :
          ¬(world.controller (asked ++ before ++ [request])).Rejects status text := fun rejects => by
        obtain ⟨_, _, _, _, _, failed⟩ := ends before request status text early rejects
        cases failed
      obtain ⟨⟨others, log, ends⟩, kept, given⟩ :=
        later value (given value rfl) left (asked ++ more) kept
      refine ⟨⟨more ++ others, by rw [log, List.append_assoc], ?_⟩, kept, given⟩
      intro before request status text made rejects
      obtain early | late := List.prefix_or_prefix_of_prefix made (List.prefix_append more others)
      · exact absurd rejects (accepted before request status text early)
      obtain rfl | ⟨rest, rfl⟩ := List.prefix_concat_iff.mp late
      · exact absurd rejects (accepted before request status text (List.prefix_refl _))
      · rw [List.append_assoc, List.prefix_append_right_inj] at made
        rw [← List.append_assoc] at rejects
        obtain ⟨rfl, failed⟩ := ends rest request status text made rejects
        exact ⟨(List.append_assoc ..).symm, failed⟩

/-- A question to the controller is one exchange, of which the answer is made up. -/
def Asks (connection : Connection) (method : Method) (path : String) (body : Option Json)
    (question : Carrier (StateM (List Request)) → StateM (List Request) α)
    (answerOf : Except RequestError Json → α) : Prop :=
  ∀ (controller : Controller) (asked : List Request), (question controller.carrier).run asked =
    let (answer, log) := (connection.client.exchange controller.carrier method path body).run asked
    (answerOf answer, log)

variable {connection : Connection}

/-- Who asks the controller heeds it, if an error of the exchange is thrown for what it is. -/
theorem heeds_ask {method : Method} {path : String} {body : Option Json}
    {question : Carrier (StateM (List Request)) → StateM (List Request) α}
    {answerOf : Except RequestError Json → α} {next : α → Action (StateM (List Request)) β}
    {gives : β → Prop} (asks : Asks connection method path body question answerOf)
    (found : world.connection progress = .ok connection)
    (throws : ∀ error,
      next (answerOf (.error error)) = throw (connection.error path error.toFailure))
    (quiet : ∀ answer, (next answer).IsQuiet world progress gives) :
    (ask question >>= next).Heeds world progress gives := by
  intro now asked leads
  rw [observe_bind, observe_ask, asks]
  cases made : connection.client.request method path body with
  | error error =>
      rw [Client.run_exchange_error world.controller asked made]
      dsimp only
      rw [throws, observe_throw]
      exact ⟨givesUp_quiet rfl, leads, nofun⟩
  | ok request =>
      rw [Client.run_exchange world.controller asked made]
      dsimp only
      obtain ⟨nothing, kept, given⟩ :=
        quiet (answerOf (world.controller (asked ++ [request])).decode) now (asked ++ [request])
          leads
      refine ⟨⟨[request], nothing, fun log other status text early rejects => ?_⟩, kept, given⟩
      obtain ⟨rfl, rfl⟩ : log = [] ∧ other = request := by
        have short := early.length_le
        cases log with
        | nil => exact ⟨rfl, (List.cons_prefix_cons.mp early).1⟩
        | cons first rest => simp at short
      refine ⟨rfl, connection, path, found, ?_, ?_⟩
      · rw [Client.method_of_request made, Client.body_of_request made]
        exact made
      · rw [List.append_nil] at rejects
        obtain ⟨error, decoded, failure⟩ := Reply.decode_of_rejects rejects
        rw [decoded, throws, observe_throw, failure]

/-- Whoever asks the controller and fails with the answer heeds it. -/
theorem heeds_ask_orFail {ε : Type} (method : Method) (path : String) (body : Option Json)
    {question : Carrier (StateM (List Request)) → StateM (List Request) (Except ε α)}
    (answerOf : Except RequestError Json → Except ε α) (toError : ε → CommandError)
    (asks : Asks connection method path body question answerOf)
    (found : world.connection progress = .ok connection)
    (fails : ∀ error, ∃ cause, answerOf (.error error) = .error cause ∧
      toError cause = connection.error path error.toFailure) :
    (ask question >>= orFail toError).Heeds world progress fun _ => True := by
  refine heeds_ask asks found (fun error => ?_) (isQuiet_orFail toError)
  obtain ⟨cause, failed, same⟩ := fails error
  rw [failed, ← same]
  rfl

theorem heeds_fetch (path : String) (found : world.connection progress = .ok connection) :
    (connection.fetch path : Action _ _).Heeds world progress fun _ => True := by
  have asks : Asks connection .get path none
      (fun carrier => connection.client.fetch carrier path) (Client.fetched path) :=
    fun controller asked => Client.run_fetch controller asked
  have heeds := heeds_ask_orFail .get path none _ (connection.error path) asks found
    fun error => ⟨error.toFailure, rfl, rfl⟩
  exact heeds

theorem heeds_getDocument (path : String) (found : world.connection progress = .ok connection) :
    (connection.getDocument path : Action _ _).Heeds world progress fun _ => True := by
  have asks : Asks connection .get path none
      (fun carrier => connection.client.exchange carrier .get path none) fun answer => answer := by
    intro controller asked
    dsimp only
    generalize (connection.client.exchange controller.carrier .get path none).run asked = seen
    rfl
  have heeds := heeds_ask_orFail .get path none _
    (fun error => connection.error path error.toFailure) asks found
    fun error => ⟨error, rfl, rfl⟩
  exact heeds

theorem heeds_load (schema : Schema) (path : String)
    (found : world.connection progress = .ok connection) :
    ((ask fun carrier => Session.load carrier connection.client schema path) >>=
      orFail (connection.error path)).Heeds world progress fun _ => True := by
  have asks : Asks connection .get path none
      (fun carrier => Session.load carrier connection.client schema path)
      fun answer => (Client.fetched path answer).bind (Session.ofFetched schema path) :=
    fun controller asked => Session.run_load controller connection.client schema path asked
  exact heeds_ask_orFail .get path none _ (connection.error path) asks found
    fun error => ⟨error.toFailure, rfl, rfl⟩

end Action

/-- A write that a session has sent belongs where the session does, and if it fails, it is answered
as it failed. -/
theorem Session.reply_failed {session next : Session} {effect : Effect} {write : Write}
    (begins : session.begin = (next, effect)) (sent : effect.sent = some write)
    (failure : Failure) :
    (next.reply 0 (.error failure)).2.answer = .failed failure ∧
      (next.reply 0 (.error failure)).1.target = write.target := by
  rw [begin] at begins
  split at begins
  next => cases begins; cases sent
  next opened =>
    split at begins
    next => cases begins; cases sent
    next held acquired =>
      split at begins
      next =>
        have same : held = { session with submitting := true } := by
          rw [acquire?] at acquired
          split at acquired
          next => cases acquired
          next => exact (Option.some.inj acquired).symm
        cases begins
        cases sent
        subst same
        obtain ⟨first, waits⟩ : ∃ first,
            (session.waiting ++ [Session.write { session with submitting := true }])[0]? =
              some first := by
          cases session.waiting with
          | nil => exact ⟨_, rfl⟩
          | cons first rest => exact ⟨first, rfl⟩
        rw [reply]
        simp only [waits, if_neg opened, true_and]
        rfl
      next => cases begins; cases sent

/-- What a save makes of the answer to its request. -/
def Client.stored (sent : Record) (answer : Except RequestError Json) : Except Failure Record :=
  (answer.mapError RequestError.toFailure).map (savedForm sent)

theorem Client.run_save (controller : Controller) (client : Client) (write : Write)
    (asked : List Request) :
    (client.save controller.carrier write).run asked =
      let (answer, log) := (client.exchange controller.carrier (writeMethod write.target)
        write.target.path (some write.body.toJson)).run asked
      (stored write.body answer, log) := by
  unfold save
  dsimp only
  rw [StateT.run_bind]
  generalize (client.exchange controller.carrier (writeMethod write.target) write.target.path
    (some write.body.toJson)).run asked = seen
  obtain ⟨answer, log⟩ := seen
  cases answer <;> rfl

namespace Action

variable {world : World} {progress : Progress} {connection : Connection}

theorem heeds_submit (resource : Resource) (session : Session)
    (found : world.connection progress = .ok connection) :
    (submit resource connection session).Heeds world progress fun _ => True := by
  rw [submit]
  cases begins : session.begin with
  | mk next effect =>
      dsimp only
      cases sent : effect.sent with
      | none =>
          dsimp only
          cases effect.answer with
          | invalid violations => exact (isQuiet_failInvalid resource violations).heeds
          | _ => exact (isQuiet_throw _).heeds
      | some write =>
          have asks : Asks connection (Client.writeMethod write.target) write.target.path
              (some write.body.toJson) (fun carrier => connection.client.save carrier write)
              (Client.stored write.body) :=
            fun controller asked => Client.run_save controller connection.client write asked
          refine heeds_ask asks found (fun error => ?_) fun answer => ?_
          · obtain ⟨failed, same⟩ := Session.reply_failed begins sent error.toFailure
            have stored : Client.stored write.body (.error error) = .error error.toFailure := rfl
            rw [stored]
            generalize next.reply 0 (.error error.toFailure) = ended at failed same ⊢
            obtain ⟨session, effect⟩ := ended
            dsimp only at failed same ⊢
            rw [failed, same]
          · generalize next.reply 0 answer = ended
            obtain ⟨session, effect⟩ := ended
            dsimp only
            cases effect.answer with
            | submitted saved =>
                exact (isQuiet_tellSuccess _).bind fun _ _ => isQuiet_present saved.view
            | failed failure => exact isQuiet_throw _
            | _ => exact isQuiet_throw _

theorem isQuiet_preview (resource : Resource) (session : Session) :
    (preview resource session).IsQuiet world progress fun _ => True := by
  rw [preview]
  cases session.model.violations session.schema with
  | nil => exact isQuiet_present _
  | cons first rest => exact isQuiet_failInvalid resource (first :: rest)

theorem isQuiet_placeOf (resource : Resource) (id : String) :
    (placeOf resource id : Action _ _).IsQuiet world progress fun _ => True := by
  rw [placeOf]
  cases resource.path? id with
  | none => exact isQuiet_throw _
  | some path => exact isQuiet_pure trivial

theorem isQuiet_runEdits (edits : Editing Unit) (session : Session) :
    (runEdits edits session).IsQuiet world progress fun _ => True := by
  rw [runEdits]
  cases edits.run.run session with
  | mk result next =>
      cases result with
      | ok _ => exact isQuiet_pure trivial
      | error error => exact isQuiet_throw error

theorem isQuiet_startCreate (resource : Resource) (edit : EditOptions) :
    (startCreate resource edit).IsQuiet world progress fun _ => True := by
  rw [startCreate]
  cases resource.collectionPath? with
  | none => exact isQuiet_throw _
  | some path =>
      dsimp only
      cases edit.fromFile with
      | none => exact isQuiet_pure trivial
      | some file =>
          refine (isQuiet_readDocument file).bind fun json _ => ?_
          refine (isQuiet_orFail _ (Record.ofResource resource.schema json)).bind fun model _ => ?_
          exact isQuiet_pure trivial

theorem heeds_startUpdate (resource : Resource) (path : String) (edit : EditOptions)
    (found : world.connection progress = .ok connection) :
    (startUpdate connection resource path edit).Heeds world progress fun _ => True := by
  rw [startUpdate, ← bind_assoc]
  refine (heeds_load resource.schema path found).bind fun session _ => IsQuiet.heeds ?_
  cases edit.fromFile with
  | none => exact isQuiet_runEdits _ session
  | some file =>
      refine (isQuiet_readDocument file).bind fun json _ => ?_
      refine (isQuiet_orFail _ (Record.ofResource resource.schema json)).bind fun model _ => ?_
      exact isQuiet_runEdits _ { session with model }

theorem heeds_finish (dryRun : Bool) (resource : Resource) (session : Session)
    (found : world.connection progress = .ok connection) :
    (if dryRun then preview resource session
      else submit resource connection session).Heeds world progress fun _ => True := by
  cases dryRun with
  | true => exact (isQuiet_preview resource session).heeds
  | false => exact heeds_submit resource session found

theorem heeds_submitNew (resource : Resource) (edit : EditOptions) (session : Session) :
    (submitNew resource edit session).Heeds world progress fun _ => True := by
  rw [submitNew]
  split
  · exact (isQuiet_preview resource session).heeds
  · exact isQuiet_connect.heeds.bind fun connection found => heeds_submit resource session found

end Action

namespace Command

/-- The commands that fetch or write a resource. -/
def servesResources : Command → Bool
  | .createApp _ | .createPolicy _ | .showResource _ _ | .updateResource _ _ _ | .listNodes
  | .showInterfacePolicy _ _ => true
  | _ => false

variable {world : World} {progress : Progress}

theorem heeds_action {command : Command} (serves : command.servesResources = true) :
    command.action.Heeds world progress fun _ => True := by
  cases command with
  | createApp options =>
      refine (Action.isQuiet_startCreate .app options.edit).heeds.bind fun session _ => ?_
      refine (Action.isQuiet_runEdits _ session).heeds.bind fun session _ => ?_
      exact Action.heeds_submitNew .app options.edit session
  | createPolicy edit =>
      show (Action.createPolicy edit).Heeds _ _ _
      rw [Action.createPolicy]
      split
      · exact (Action.isQuiet_throw _).heeds
      · refine (Action.isQuiet_startCreate .trafficPolicy edit).heeds.bind fun session _ => ?_
        refine (Action.isQuiet_runEdits _ session).heeds.bind fun session _ => ?_
        exact Action.heeds_submitNew .trafficPolicy edit session
  | showResource resource id =>
      refine Action.isQuiet_connect.heeds.bind fun connection found => ?_
      refine (Action.isQuiet_placeOf resource id).heeds.bind fun path _ => ?_
      refine (Action.heeds_fetch path found).bind fun model _ => ?_
      exact (Action.isQuiet_present model.view).heeds
  | updateResource resource id edit =>
      refine Action.isQuiet_connect.heeds.bind fun connection found => ?_
      refine (Action.isQuiet_placeOf resource id).heeds.bind fun path _ => ?_
      refine (Action.heeds_startUpdate resource path edit found).bind fun session _ => ?_
      exact Action.heeds_finish edit.dryRun resource session found
  | listNodes =>
      refine Action.isQuiet_connect.heeds.bind fun connection found => ?_
      refine (Action.heeds_getDocument _ found).bind fun document _ => Action.IsQuiet.heeds ?_
      refine (Action.isQuiet_orFail _ _).bind fun model _ => ?_
      refine (Action.isQuiet_orFail _ _).bind fun wire _ => ?_
      exact Action.isQuiet_present _
  | showInterfacePolicy node interface =>
      refine Action.isQuiet_connect.heeds.bind fun connection found => ?_
      refine (Action.heeds_fetch _ found).bind fun policy _ => Action.IsQuiet.heeds ?_
      refine (Action.isQuiet_orFail _ _).bind fun model _ => ?_
      exact Action.isQuiet_present _
  | _ => cases serves

/-- A command stops at the first request that the controller rejects, and its error says what the
controller did. The client speaks for itself where the controller said nothing, and where it said
that there is nothing at the path. -/
theorem tells_rejection {command : Command} (serves : command.servesResources = true)
    (world : World) (progress : Progress) {log : List Request} {request : Request} {status : Nat}
    {text : String} (asked : log ++ [request] <+: (command.observe world progress).2)
    (rejects : (world.controller (log ++ [request])).Rejects status text) :
    (command.observe world progress).2 = log ++ [request] ∧
    ∃ connection path error, world.connection progress = .ok connection ∧
      connection.client.request request.method path request.body = .ok request ∧
      (command.observe world progress).1.result = .error error ∧
      (status = 404 → error = .notFound "Resource" path) ∧
      error.Says (if status = 404 ∨ Text.isBlankText text then Reply.ownWords path status
        else Text.trim text) ∧
      Text.isBlankText (Reply.ownWords path status) = false := by
  have heeds : command.action.Heeds world progress fun _ => True := heeds_action serves
  obtain ⟨⟨more, made, ends⟩, _⟩ := heeds progress [] ⟨rfl, rfl⟩
  rw [observe_eq] at asked ⊢
  generalize command.action.observe world progress [] = seen at asked made ends ⊢
  obtain ⟨⟨result, left⟩, requests⟩ := seen
  dsimp only at asked made ends ⊢
  rw [List.nil_append] at made
  subst made
  obtain ⟨last, connection, path, found, sent, failed⟩ :=
    ends log request status text asked rejects
  refine ⟨last, connection, path, _, found, sent, failed, ?_,
    CommandError.says_rejection _ _ path text status, Reply.isBlankText_ownWords path status⟩
  rintro rfl
  rfl

section Lab

/-- The controller of a lab, which gives one reply after the other. -/
def labReplies (replies : List Reply) : World where
  options := { controller := some "http://[::1]" }
  controller := fun asked => replies.getD (asked.length - 1) .refused

/-- A controller that hands out a policy, but rejects what is made of it. -/
def labObjecting : World :=
  labReplies [.answered 200 "\x7b\"name\":\"p\"\x7d", .answered 422 " name is taken\n"]

def labChange : Command :=
  .updateResource .trafficPolicy "p" { assignments := ["traffic_rules[0].priority=1"] }

/-- The objection to what a change has made of a policy reaches the user. -/
theorem labChange_tells_objection :
    labChange.servesResources = true ∧
    ∃ fetch write error, (labChange.observe labObjecting {}).2 = [fetch, write] ∧
      (labObjecting.controller [fetch, write]).Rejects 422 " name is taken\n" ∧
      (labChange.observe labObjecting {}).1.result = .error error ∧ error.Says "name is taken" := by
  obtain ⟨fetch, write, asked⟩ := List.length_eq_two.mp
    (by decide +kernel : (labChange.observe labObjecting {}).2.length = 2)
  have rejects : (labObjecting.controller [fetch, write]).Rejects 422 " name is taken\n" :=
    ⟨by decide, _, rfl, by decide +kernel⟩
  have serves : labChange.servesResources = true := rfl
  have made : [fetch] ++ [write] <+: (labChange.observe labObjecting {}).2 :=
    asked ▸ List.prefix_refl _
  obtain ⟨_, _, _, error, _, _, failed, _, told, _⟩ :=
    tells_rejection serves labObjecting {} made rejects
  rw [if_neg (by decide +kernel),
    (by decide +kernel : Text.trim " name is taken\n" = "name is taken")] at told
  exact ⟨serves, fetch, write, error, asked, rejects, failed, told⟩

def labShow : Command := .showResource .app "a1"

/-- A controller that says why it has nothing. -/
def labRetired : World := labReplies [.answered 404 "retired in spring"]

/-- Why there is nothing at the path is not told. -/
theorem labShow_withholds_reason :
    labShow.servesResources = true ∧
    ∃ request error, (labShow.observe labRetired {}).2 = [request] ∧
      (labRetired.controller [request]).Rejects 404 "retired in spring" ∧
      Text.isBlankText "retired in spring" = false ∧
      (labShow.observe labRetired {}).1.result = .error error ∧
      ¬error.Says (Text.trim "retired in spring") := by
  obtain ⟨request, asked⟩ := List.length_eq_one_iff.mp
    (by decide +kernel : (labShow.observe labRetired {}).2.length = 1)
  have rejects : (labRetired.controller [request]).Rejects 404 "retired in spring" :=
    ⟨by decide, _, rfl, by decide +kernel⟩
  have failed : (labShow.observe labRetired {}).1.result =
      .error (.notFound "Resource" "/apps/a1") := by
    decide +kernel
  have silent : ¬(CommandError.notFound "Resource" "/apps/a1").Says
      (Text.trim "retired in spring") := by
    rw [CommandError.Says]
    decide +kernel
  exact ⟨rfl, request, _, asked, rejects, by decide, failed, silent⟩

end Lab

end Command

end ResourceEditor
