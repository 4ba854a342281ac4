import ResourceEditor.Controller.Error
import ResourceEditor.Edit.Basic
import ResourceEditor.Edit.Error
import ResourceEditor.Text.Lowercase
import ResourceEditor.Validation.Basic
import ResourceEditor.Value.Prune
/-
This file holds edit sessions. A session keeps one form while it is edited and sends it to the
controller, one write at a time. Nothing is heard of a session once it is closed. Whatever happens
between two events, such as a submit that runs until it waits for the controller, is one step.
-/

namespace ResourceEditor

/-- Where a session's form is sent: to a collection as something new, or to its own place. -/
inductive Target where
  | create (path : String)
  | update (path : String)
deriving Repr, DecidableEq

def Target.path : Target → String
  | .create path => path
  | .update path => path

structure Write where
  target : Target
  body : Record

inductive Notice where
  | success (text : String)
  | error (text : String)
deriving Repr, DecidableEq

/-- A submit holds the flag from its begin to its end. The submits that wait for the controller are
kept by their writes, in the order in which they were sent. -/
structure Session where
  schema : Schema
  target : Target
  model : Record
  closed : Bool := false
  submitting : Bool := false
  waiting : List Write := []

/-- What a session answers to an event. -/
inductive Answer where
  | done
  | refused (error : EditorError)
  | pending
  | submitted (saved : Record)
  | invalid (violations : List Violation)
  | alreadySubmitting
  | failed (failure : Failure)
  | closed

/-- What comes out of a session at an event. Subscribers see the form after every edit. A write is
settled when its submit ends. -/
structure Effect where
  answer : Answer
  published : Option Record := none
  sent : Option Write := none
  settled : Option Write := none
  notice : Option Notice := none

/-- A submit that waits is named by its position among those that wait. -/
inductive Event where
  | edit (change : Record → Except EditorError Record)
  | reopen
  | close
  | begin
  | answered (position : Nat) (answer : Except Failure Record)
  | dropped (position : Nat)

namespace Event

/-- The answer to the submit that has waited longest. -/
def reply (answer : Except Failure Record) : Event := .answered 0 answer

/-- The end of the submit that has waited longest, without an answer. -/
def abandon : Event := .dropped 0

end Event

namespace Session

/-- A session over a form that is there. -/
def ofModel (schema : Schema) (target : Target) (model : Record) : Session :=
  { schema, target, model }

/-- A session for a new resource. -/
def create (schema : Schema) (path : String) : Session :=
  ofModel schema (.create path) schema.blankRecord

/-- A session for a resource that is there. -/
def update (schema : Schema) (path : String) (model : Record) : Session :=
  ofModel schema (.update path) model

def isSubmitting (session : Session) : Bool := session.submitting

/-- Takes the flag, unless another submit holds it. -/
def acquire? (session : Session) : Option Session :=
  if session.submitting then none else some { session with submitting := true }

def release (session : Session) : Session := { session with submitting := false }

/-- What is sent of the form: all but its empty parts. -/
def write (session : Session) : Write := ⟨session.target, session.model.pruned⟩

def successText (session : Session) : String :=
  let title := Text.lowercase session.schema.title
  match session.target with
  | .create _ => "Successfully added " ++ title ++ "."
  | .update _ => "Successfully updated " ++ title ++ "."

/-- Replaces the form by a changed one. A failed change leaves it alone. -/
def edit (session : Session) (change : Record → Except EditorError Record) : Session × Effect :=
  if session.closed then (session, { answer := .refused .sessionClosed })
  else
    match change session.model with
    | .ok model => ({ session with model }, { answer := .done, published := some model })
    | .error error => (session, { answer := .refused error })

/-- Brings the dynamic lists back to one entry each. -/
def reopen (session : Session) : Session × Effect :=
  session.edit fun model => (model.resetDynamic session.schema).mapError .edit

def close (session : Session) : Session × Effect :=
  ({ session with closed := true }, { answer := .done })

/-- Sends the form, if it is valid and no other submit holds the flag. -/
def begin (session : Session) : Session × Effect :=
  if session.closed then (session, { answer := .closed })
  else
    match session.acquire? with
    | none => (session, { answer := .alreadySubmitting })
    | some held =>
        match held.model.violations held.schema with
        | [] =>
            ({ held with waiting := held.waiting ++ [held.write] },
              { answer := .pending, sent := some held.write })
        | violations => (held.release, { answer := .invalid violations })

/-- Ends the submit that waits at a position. -/
def finish (session : Session) (position : Nat) : Session :=
  { session.release with waiting := session.waiting.eraseIdx position }

/-- Goes on with the submit that waits at a position, once the controller has answered it. -/
def reply (session : Session) (position : Nat) (answer : Except Failure Record) :
    Session × Effect :=
  match session.waiting[position]? with
  | none => (session, { answer := .done })
  | some write =>
      let landed := session.finish position
      if session.closed then (landed, { answer := .closed, settled := some write })
      else
        match answer with
        | .ok saved =>
            (landed,
              { answer := .submitted saved, settled := some write,
                notice := some (.success session.successText) })
        | .error failure =>
            (landed,
              { answer := .failed failure, settled := some write,
                notice := some (.error failure.userMessage) })

/-- Drops the submit that waits at a position, whose answer will not be heard. -/
def abandon (session : Session) (position : Nat) : Session × Effect :=
  match session.waiting[position]? with
  | none => (session, { answer := .done })
  | some write => (session.finish position, { answer := .done, settled := some write })

def step (session : Session) : Event → Session × Effect
  | .edit change => session.edit change
  | .reopen => session.reopen
  | .close => session.close
  | .begin => session.begin
  | .answered position answer => session.reply position answer
  | .dropped position => session.abandon position

/-- The session after a run of events, and what came out at each of them. -/
def run (session : Session) : List Event → Session × List Effect
  | [] => (session, [])
  | event :: rest =>
      let (next, effect) := session.step event
      let (last, effects) := next.run rest
      (last, effect :: effects)

end Session

end ResourceEditor
