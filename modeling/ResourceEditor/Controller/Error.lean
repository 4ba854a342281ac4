import ResourceEditor.Controller.Host
import ResourceEditor.Edit.Error
import ResourceEditor.Text.Blank
/-
This file holds the ways in which a request to the controller can fail, and what they come to for
the editor and for its users.
-/

namespace ResourceEditor

/-- The controller answered with an error, or there was no answer that could be used. -/
inductive Failure where
  | server (status : Nat) (body : String)
  | unreachable (reason : String)
deriving Repr, DecidableEq

namespace Failure

/-- What is said when the controller says nothing. -/
def fallbackMessage : String := "Request failed. Please try again later."

/-- The words of the controller, if it sent any. -/
def userMessage : Failure → String
  | .server _ body => if Text.isBlankText body then fallbackMessage else body
  | .unreachable _ => fallbackMessage

def message : Failure → String
  | .server status body => "controller returned " ++ toString status ++ ": " ++ body
  | .unreachable reason => "request failed: " ++ reason

end Failure

/-- How far a request got that was not answered. -/
inductive TransportFault where
  | refused
  | dropped
  | badHeader
  | badScheme
deriving Repr, DecidableEq

def TransportFault.message : TransportFault → String
  | .refused => "connection refused"
  | .dropped => "connection closed before message completed"
  | .badHeader => "builder error"
  | .badScheme => "URL scheme is not allowed"

inductive RequestError where
  | authentication (message : String)
  | transport (fault : TransportFault)
  | invalidUrl (fault : UrlFault)
  | tls (message : String)
  | rejected (status : Nat) (body : String)
  | unreadable (message : String) (body : String)
deriving Repr, DecidableEq

namespace RequestError

def message : RequestError → String
  | .authentication message => "Authentication failed: " ++ message
  | .transport fault => "HTTP transport error: " ++ fault.message
  | .invalidUrl fault => "Invalid URL: " ++ fault.message
  | .tls message => "TLS error: " ++ message
  | .rejected status body => "Controller returned HTTP " ++ toString status ++ ": " ++ body
  | .unreadable message _ => "Deserialization error: " ++ message

/-- Whether it is worth trying again: nobody listened, or the controller had trouble of its own. -/
def isTransient : RequestError → Bool
  | .transport fault => fault == .refused
  | .rejected status _ => 500 ≤ status
  | _ => false

def isNotFound : RequestError → Bool
  | .rejected status _ => status == 404
  | _ => false

/-- The controller's own words, if it answered. -/
def serverBody? : RequestError → Option String
  | .rejected _ body => some body
  | _ => none

/-- What a user of the editor sees. -/
def toFailure : RequestError → Failure
  | .rejected status body => .server status body
  | .authentication message => .server 401 message
  | error => .unreachable error.message

def toEditorError : RequestError → EditorError
  | .authentication message => .authenticationFailed message
  | .rejected status body => .rejected status body
  | .unreadable message _ => .serialization message
  | error => .unreachable error.message

end RequestError

end ResourceEditor
