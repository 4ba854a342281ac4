import ResourceEditor.Controller.Client
/-
This file holds the exchange by which a client gets its token.
-/

namespace ResourceEditor

namespace Login

def path : String := "/auth"

def credentials (username password : String) : Json :=
  .object [("username", .string username), ("password", .string password)]

/-- A token is a text or null. -/
def tokenOf : Json.Tree → Option (Option String)
  | .text letters => (Json.readText? letters).map some
  | .null => some none
  | _ => none

/-- Whether a member has the name of the token. -/
def namesToken (member : List Json.Letter × Json.Tree) : Bool :=
  Json.readText? member.1 == some "token"

/-- The token in an answer: the member of that name, which comes once, or the one element of an
array. The names of all members are read, but what stands for another member is passed over. -/
def readToken (text : String) : Option (Option String) := do
  match ← Json.tree? text with
  | .object members =>
      if members.all fun member => (Json.readText? member.1).isSome then
        match members.filter namesToken with
        | [] => some none
        | [(_, value)] => tokenOf value
        | _ => none
      else none
  | .array [value] => tokenOf value
  | _ => none

def decode : Reply → Except RequestError String
  | .dropped => .error (.transport .dropped)
  | .refused => .error (.transport .refused)
  | .answered status body =>
      let text := Reply.textOf status body
      if !Status.isSuccess status then
        .error (.authentication
          ("login failed (HTTP " ++ Status.describe status ++ "): " ++ text))
      else
        match readToken text with
        | none => .error (.unreadable "malformed login answer" text)
        | some token =>
            match token.filter (!·.isEmpty) with
            | some token => .ok token
            | none => .error (.authentication "login response did not contain a token")

end Login

namespace Client

variable {m : Type → Type} [Monad m]

/-- Asks for a token with a name and a password; the request itself is not signed. -/
def login (carrier : Carrier m) (client : Client) (username password : String) :
    m (Except RequestError String × Client) := do
  match client.clearToken.request .post Login.path (some (Login.credentials username password)) with
  | .error error => return (.error error, client)
  | .ok request =>
      match Login.decode (← carrier request) with
      | .ok token => return (.ok token, client.setToken token)
      | .error error => return (.error error, client)

end Client

end ResourceEditor
