import ResourceEditor.Controller.Exchange
import ResourceEditor.Edit.Normalize
import ResourceEditor.Json.Writer
import ResourceEditor.Session.Basic
import ResourceEditor.Text.Encoding
/-
This file holds clients of the controller. A client knows where the controller is and keeps the
token that requests are signed with.
-/

namespace ResourceEditor

/-- The header for a login that an address brings along. A password that is no text is left out. -/
def Authority.basic? (authority : Authority) : Option String := do
  let decode (text : String) : Option String :=
    String.fromUTF8? ⟨(Text.percentDecode text.toList).toArray⟩
  let user ← decode authority.user
  let password := if authority.password.isEmpty then none else decode authority.password
  if user.isEmpty && password.isNone then none
  else
    let login := user.toList ++ ':' :: (password.getD "").toList
    some ("Basic " ++ String.ofList (Text.base64 (login.flatMap String.utf8EncodeChar)))

def Url.basic? (url : Url) : Option String := url.authority.bind Authority.basic?

structure Client where
  base : Url
  token : Option String

namespace Client

/-- An empty token does not sign anything in. -/
def tokenCounts (token : Option String) : Bool := token.any (!·.isEmpty)

def isAuthenticated (client : Client) : Bool := tokenCounts client.token

def setToken (client : Client) (token : String) : Client := { client with token := some token }

def clearToken (client : Client) : Client := { client with token := none }

/-- A header takes every character but controls; tabs are no controls here. -/
def isHeaderText (text : String) : Bool :=
  text.toList.all fun c => c == '\t' || (0x20 ≤ c.toNat && c.toNat != 0x7F)

/-- The header as it arrives, without blanks at its ends. -/
def bearer (token : String) : String :=
  let isGap (c : Char) : Bool := c == ' ' || c == '\t'
  String.ofList (Text.dropLastWhile isGap ("Bearer " ++ token).toList)

/-- Headers of one name are one header with commas. -/
def joined? : List String → Option String
  | [] => none
  | headers => some (", ".intercalate headers)

/-- A request is signed with the login in its address and with the token. -/
def authorization? (client : Client) (url : Url) : Option String :=
  joined? (url.basic?.toList ++ (client.token.map bearer).toList)

/-- The request for a path below the client's base. -/
def request (client : Client) (method : Method) (path : String) (body : Option Json) :
    Except RequestError Request := do
  let url ← (client.base.join path).mapError .invalidUrl
  if !(["http", "https"].contains url.scheme) then throw (.transport .badScheme)
  if client.token.all isHeaderText then return ⟨method, url, client.authorization? url, body⟩
  else throw (.transport .badHeader)

variable {m : Type → Type} [Monad m]

/-- Sends a request and reads the document that comes back. -/
def exchange (carrier : Carrier m) (client : Client) (method : Method) (path : String)
    (body : Option Json) : m (Except RequestError Json) :=
  match client.request method path body with
  | .error error => pure (.error error)
  | .ok request => do
      let reply ← carrier request
      return reply.decode

/-- The form that a fetched document holds. -/
def formOf (path : String) (json : Json) : Except Failure Record :=
  (Record.ofJson json).mapError fun _ =>
    .unreachable ("expected a JSON object from " ++ path ++ ", got " ++ json.compact)

def fetch (carrier : Carrier m) (client : Client) (path : String) :
    m (Except Failure Record) := do
  match ← client.exchange carrier .get path none with
  | .error error => return .error error.toFailure
  | .ok json => return formOf path json

/-- What the controller stored: its answer, or what was sent when it does not say. -/
def savedForm (sent : Record) (json : Json) : Record :=
  match Record.ofJson json with
  | .ok saved => saved
  | .error _ => sent

def writeMethod : Target → Method
  | .create _ => .post
  | .update _ => .patch

/-- Sends a form to where it belongs. -/
def save (carrier : Carrier m) (client : Client) (write : Write) :
    m (Except Failure Record) := do
  let target := write.target
  match ← client.exchange carrier (writeMethod target) target.path (some write.body.toJson) with
  | .error error => return .error error.toFailure
  | .ok json => return .ok (savedForm write.body json)

end Client

/-- Opens a session on a fetched form. -/
def Session.ofFetched (schema : Schema) (path : String) (fetched : Record) :
    Except Failure Session :=
  match Record.ofResource schema fetched.toJson with
  | .ok model => .ok (Session.update schema path model)
  | .error kind => .error (.unreachable kind)

/-- Fetches a resource and opens a session on it. -/
def Session.load {m : Type → Type} [Monad m] (carrier : Carrier m) (client : Client)
    (schema : Schema) (path : String) : m (Except Failure Session) := do
  return (← client.fetch carrier path).bind (Session.ofFetched schema path)

end ResourceEditor
