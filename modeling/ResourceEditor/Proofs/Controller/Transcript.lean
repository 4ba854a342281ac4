import ResourceEditor.Controller.Login
/-
This file puts clients before a controller that remembers every request, and says what they ask it.
-/

namespace ResourceEditor

theorem ok_of_isOk {ε α : Type} {result : Except ε α} (isOk : result.isOk = true) :
    ∃ value, result = .ok value := by
  cases result with
  | ok value => exact ⟨value, rfl⟩
  | error error => cases isOk

theorem mapError_ok {ε ε' α : Type} (change : ε → ε') (value : α) :
    (Except.ok value : Except ε α).mapError change = .ok value := rfl

theorem mapError_error {ε ε' α : Type} (change : ε → ε') (error : ε) :
    (Except.error error : Except ε α).mapError change = .error (change error) := rfl

/-- A controller that replies to the last of the requests that have reached it. -/
abbrev Controller := List Request → Reply

namespace Controller

/-- Every request reaches the controller and is added to those before it. -/
def carrier (controller : Controller) : Carrier (StateM (List Request)) := fun request => do
  modify (· ++ [request])
  return controller (← get)

end Controller

namespace Client

variable {client : Client} {method : Method} {path : String} {body : Option Json}
  {request : Request}

/-- Whether a client can ask for what is at a path: it finds the place in the web, and its token can
stand in a header. -/
def Reaches (client : Client) (path : String) : Prop :=
  ∃ url, client.base.join path = .ok url ∧ ["http", "https"].contains url.scheme = true ∧
    ∀ token, client.token = some token → isHeaderText token = true

theorem request_eq_ok_iff :
    client.request method path body = .ok request ↔
      ∃ url, client.base.join path = .ok url ∧ ["http", "https"].contains url.scheme = true ∧
        (∀ token, client.token = some token → isHeaderText token = true) ∧
        ⟨method, url, client.authorization? url, body⟩ = request := by
  rw [Client.request]
  cases client.base.join path with
  | error fault => simp [mapError_error, bind, Except.bind]
  | ok url =>
      simp only [mapError_ok, bind, Except.bind, Except.ok.injEq, exists_eq_left']
      cases ["http", "https"].contains url.scheme with
      | false => simp [throw, throwThe, MonadExceptOf.throw]
      | true =>
          cases client.token with
          | none => simp [pure, Except.pure]
          | some token =>
              cases fits : isHeaderText token <;>
                simp [fits, throw, throwThe, MonadExceptOf.throw, pure, Except.pure]

theorem method_of_request (asks : client.request method path body = .ok request) :
    request.method = method := by
  obtain ⟨_, _, _, _, rfl⟩ := request_eq_ok_iff.mp asks
  rfl

theorem body_of_request (asks : client.request method path body = .ok request) :
    request.body = body := by
  obtain ⟨_, _, _, _, rfl⟩ := request_eq_ok_iff.mp asks
  rfl

/-- A request that cannot be made asks nothing. -/
theorem run_exchange_error (controller : Controller) (asked : List Request) {error : RequestError}
    (cannot : client.request method path body = .error error) :
    (client.exchange controller.carrier method path body).run asked = (.error error, asked) := by
  unfold exchange
  rw [cannot]
  rfl

theorem run_exchange (controller : Controller) (asked : List Request)
    (asks : client.request method path body = .ok request) :
    (client.exchange controller.carrier method path body).run asked =
      ((controller (asked ++ [request])).decode, asked ++ [request]) := by
  unfold exchange
  rw [asks]
  rfl

/-- What a fetch makes of the answer to its request. -/
def fetched (path : String) (answer : Except RequestError Json) : Except Failure Record :=
  (answer.mapError RequestError.toFailure).bind (formOf path)

theorem run_fetch (controller : Controller) (asked : List Request) :
    (client.fetch controller.carrier path).run asked =
      let (answer, requests) := (client.exchange controller.carrier .get path none).run asked
      (fetched path answer, requests) := by
  unfold fetch
  generalize client.exchange controller.carrier .get path none = exchange
  rw [StateT.run_bind]
  obtain ⟨answer, requests⟩ := exchange.run asked
  cases answer <;> rfl

/-- The request that a form is sent in, if it can be made. -/
def sends (client : Client) (write : Write) : List Request :=
  match client.request (writeMethod write.target) write.target.path (some write.body.toJson) with
  | .ok request => [request]
  | .error _ => []

theorem asked_save (controller : Controller) (write : Write) (asked : List Request) :
    ((client.save controller.carrier write).run asked).2 = asked ++ client.sends write := by
  unfold save sends
  rw [StateT.run_bind]
  cases made : client.request (writeMethod write.target) write.target.path
      (some write.body.toJson) with
  | error error =>
      rw [run_exchange_error controller asked made, List.append_nil]
      rfl
  | ok request =>
      rw [run_exchange controller asked made]
      cases (controller (asked ++ [request])).decode <;> rfl

theorem of_mem_sends {write : Write} (member : request ∈ client.sends write) :
    client.sends write = [request] ∧
      client.request (writeMethod write.target) write.target.path (some write.body.toJson) =
        .ok request := by
  unfold sends at member ⊢
  split at member
  next made =>
    cases List.mem_singleton.mp member
    exact ⟨rfl, made⟩
  next => cases member

end Client

/-- A session is loaded with one exchange. -/
theorem Session.run_load (controller : Controller) (client : Client) (schema : Schema)
    (path : String) (asked : List Request) :
    (load controller.carrier client schema path).run asked =
      let (answer, requests) := (client.exchange controller.carrier .get path none).run asked
      ((Client.fetched path answer).bind (ofFetched schema path), requests) := by
  unfold load
  simp only [StateT.run_bind, Client.run_fetch]
  generalize client.exchange controller.carrier .get path none = exchange
  rfl

end ResourceEditor
