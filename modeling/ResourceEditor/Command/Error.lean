import ResourceEditor.Config.Basic
import ResourceEditor.Controller.Error
import ResourceEditor.Edit.Error
import ResourceEditor.Schema.Resource
/-
This file holds the errors of commands: what they say, how the process ends, and what a user can do.
-/

namespace ResourceEditor

inductive CommandError where
  | connectionFailed (url reason : String)
  | authFailed (profile message : String)
  | forbidden (message : String)
  | notFound (resource path : String)
  | conflict (message : String)
  | rejected (status : Nat) (message : String)
  | invalid (resource : String) (count : Nat)
  | badValue (field reason : String)
  | edit (resource path reason : String)
  | profileNotFound (name available : String)
  | noConfig (path : String)
  | config (error : ConfigError)
  | io (message : String)
  | internal (message : String)
deriving Repr, DecidableEq

namespace CommandError

def message : CommandError → String
  | .connectionFailed url _ => "Could not reach controller at " ++ url
  | .authFailed _ message => "Authentication failed: " ++ message
  | .forbidden message => "Access denied: " ++ message
  | .notFound resource path => resource ++ " '" ++ path ++ "' not found"
  | .conflict message => "Conflict: " ++ message
  | .rejected status message =>
      "Controller rejected the request (" ++ toString status ++ "): " ++ message
  | .invalid resource count =>
      resource ++ " is invalid (" ++ toString count ++ " violation(s))"
  | .badValue field reason => "Invalid value for " ++ field ++ ": " ++ reason
  | .edit _ path reason => "Cannot edit " ++ path ++ ": " ++ reason
  | .profileNotFound name _ => "Profile '" ++ name ++ "' not found in configuration"
  | .noConfig _ => "No controller configured"
  | .config error => error.message
  | .io message => message
  | .internal message => message

/-- The number that the process ends with. -/
def exitCode : CommandError → Nat
  | .connectionFailed _ _ => 7
  | .authFailed _ _ => 3
  | .forbidden _ => 5
  | .notFound _ _ => 4
  | .conflict _ => 6
  | .invalid _ _ => 9
  | .badValue _ _ => 2
  | .edit _ _ _ => 2
  | .config (.noCredentials _) => 3
  | _ => 1

/-- The name under which the error is documented. -/
def code? : CommandError → Option String
  | .connectionFailed _ _ => some "edgeform::connection_failed"
  | .authFailed _ _ => some "edgeform::auth_failed"
  | .forbidden _ => some "edgeform::forbidden"
  | .notFound _ _ => some "edgeform::not_found"
  | .conflict _ => some "edgeform::conflict"
  | .rejected _ _ => some "edgeform::api_error"
  | .invalid _ _ => some "edgeform::invalid"
  | .badValue _ _ => some "edgeform::validation"
  | .edit _ _ _ => some "edgeform::edit"
  | .profileNotFound _ _ => some "edgeform::profile_not_found"
  | .noConfig _ => some "edgeform::no_config"
  | .config _ => some "edgeform::config"
  | .io _ => none
  | .internal _ => some "edgeform::internal"

/-- What the user can do about it. -/
def help? : CommandError → Option String
  | .connectionFailed _ reason =>
      some ("Check that the controller is running and accessible.\n" ++ reason ++
        "\nSelf-signed certificate? Try --insecure (-k) or set ca_cert in your profile.")
  | .authFailed profile _ => some ("Run: edgeform login --profile " ++ profile)
  | .invalid _ _ => some "Fix the fields listed above and try again."
  | .edit resource _ _ =>
      some ("Run: edgeform schema show " ++ resource ++ " to see the editable fields")
  | .profileNotFound _ available =>
      some ("Available profiles: " ++ available ++ "\nCreate one with: edgeform config init")
  | .noConfig path =>
      some ("Create a profile with: edgeform config init --url <URL>\n" ++
        "Or pass --controller / set EDGEFORM_CONTROLLER.\nExpected config at: " ++ path)
  | _ => none

/-- The error of a request for the resource at a path. -/
def ofFailure (url profile path : String) (failure : Failure) : CommandError :=
  match failure with
  | .unreachable reason => .connectionFailed url reason
  | .server status _ =>
      let message := failure.userMessage
      if status = 401 then .authFailed profile message
      else if status = 403 then .forbidden message
      else if status = 404 then .notFound "Resource" path
      else if status = 409 then .conflict message
      else .rejected status message

def ofConfigError : ConfigError → CommandError
  | .invalidUrl text => .badValue "controller" ("invalid URL: " ++ text)
  | error => .config error

def ofEditorError : EditorError → CommandError
  | .unknownResource name =>
      .badValue "resource"
        ("unknown resource type '" ++ name ++ "' (run: edgeform schema list)")
  | .edit (.invalidPath text fault) => .badValue text fault.reason
  | .edit error => .internal error.message
  | .sessionClosed => .internal EditorError.sessionClosed.message
  | .serialization message => .badValue "input" message
  | .authenticationFailed message => .authFailed "current" message
  | .rejected status message => .rejected status message
  | .unreachable reason => .connectionFailed "(controller)" reason
  | .invalid violations => .invalid "Model" violations.length

/-- The place that an edit could not be made at. -/
def editedPath? : EditError → Option Path
  | .unknownField path => some path
  | .readOnlyField path => some path
  | .indexOutOfRange path _ _ => some path
  | .typeMismatch path _ => some path
  | .invalidPath _ _ => none

/-- The error of an edit, which names the resource whose fields can be looked up. -/
def ofEdit (resource : Resource) (error : EditorError) : CommandError :=
  match error with
  | .edit cause =>
      match editedPath? cause with
      | some path => .edit resource.name path.render cause.message
      | none => ofEditorError error
  | error => ofEditorError error

end CommandError

end ResourceEditor
