import ResourceEditor.Path.Parser
import ResourceEditor.Validation.Violation
/-
This file holds the reasons why an edit can fail, and all errors of the editor, from a name that is
no resource to a controller that cannot be reached.
-/

namespace ResourceEditor

/-- What a place of a form takes, where an edit had something else in mind. -/
inductive Expectation where
  | record
  | list
  | positionBeforeName
  | partwiseEdit
  | entryLike (title : String)
deriving Repr, DecidableEq

def Expectation.wording : Expectation → String
  | .record => "a record"
  | .list => "a list"
  | .positionBeforeName => "a list index before the field name"
  | .partwiseEdit => "a record or list operation, not a scalar value"
  | .entryLike title => "an entry shaped like " ++ title

inductive EditError where
  | invalidPath (text : String) (fault : PathFault)
  | unknownField (path : Path)
  | readOnlyField (path : Path)
  | indexOutOfRange (path : Path) (index length : Nat)
  | typeMismatch (path : Path) (expectation : Expectation)
deriving Repr, DecidableEq

def EditError.message : EditError → String
  | .invalidPath text fault => "Invalid field path '" ++ text ++ "': " ++ fault.reason
  | .unknownField path => "Unknown field: " ++ path.render
  | .readOnlyField path => "Field is read-only: " ++ path.render
  | .indexOutOfRange path index length =>
      "Index " ++ toString index ++ " out of range for " ++ path.render ++ " (length " ++
        toString length ++ ")"
  | .typeMismatch path expectation =>
      "Field " ++ path.render ++ " expects " ++ expectation.wording

/-- Reads the path that a user gave for an edit. -/
def Path.ofUser (text : String) : Except EditError Path :=
  (Path.parse text).mapError (.invalidPath text)

inductive EditorError where
  | unknownResource (name : String)
  | edit (error : EditError)
  | sessionClosed
  | invalid (violations : List Violation)
  | serialization (message : String)
  | authenticationFailed (message : String)
  | rejected (status : Nat) (message : String)
  | unreachable (reason : String)
deriving Repr, DecidableEq

/-- The error of a document that is no form, of which it only says what it is. -/
def EditorError.notObject (kind : String) : EditorError :=
  .serialization ("expected a JSON object, got " ++ kind)

def EditorError.message : EditorError → String
  | .unknownResource name => "Unknown resource type: " ++ name
  | .edit error => error.message
  | .sessionClosed => "Edit session is closed"
  | .invalid violations =>
      "Validation failed with " ++ toString violations.length ++ " violation(s)"
  | .serialization message => "Serialization error: " ++ message
  | .authenticationFailed message => "Authentication failed: " ++ message
  | .rejected status message =>
      "Controller rejected the request (" ++ toString status ++ "): " ++ message
  | .unreachable reason => "Cannot reach controller: " ++ reason

end ResourceEditor
