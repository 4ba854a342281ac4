import ResourceEditor.Session.Basic
/-
This file says what one event can do to a session, and takes runs of events apart.
-/

namespace ResourceEditor

namespace Event

/-- The events that may change the form. -/
def isEdit : Event → Bool
  | .edit _ => true
  | .reopen => true
  | _ => false

def isBegin : Event → Bool
  | .begin => true
  | _ => false

end Event

namespace Session

/-- The session after a run. -/
def after (session : Session) (events : List Event) : Session := (session.run events).1

/-- What came out of a session during a run. -/
def effects (session : Session) (events : List Event) : List Effect := (session.run events).2

@[simp] theorem after_nil (session : Session) : session.after [] = session := rfl

@[simp] theorem effects_nil (session : Session) : session.effects [] = [] := rfl

@[simp] theorem after_cons (session : Session) (event : Event) (rest : List Event) :
    session.after (event :: rest) = (session.step event).1.after rest := rfl

@[simp] theorem effects_cons (session : Session) (event : Event) (rest : List Event) :
    session.effects (event :: rest) =
      (session.step event).2 :: (session.step event).1.effects rest := rfl

/-- What every step keeps, a run keeps. -/
theorem after_invariant (invariant : Session → Prop)
    (preserves : ∀ session event, invariant session → invariant (session.step event).1)
    (session : Session) (events : List Event) (initial : invariant session) :
    invariant (session.after events) := by
  induction events generalizing session with
  | nil => exact initial
  | cons event rest ih => exact ih (session.step event).1 (preserves session event initial)

/-- What comes out at a position is what the event there does to the session reached by then. -/
theorem effects_getElem? (session : Session) (events : List Event) (position : Nat) :
    (session.effects events)[position]? =
      events[position]?.map fun event =>
        ((session.after (events.take position)).step event).2 := by
  induction events generalizing session position with
  | nil => rfl
  | cons event rest ih =>
      cases position with
      | zero => rfl
      | succ position => exact ih (session.step event).1 position

/-- What is true of every step is true of everything that comes out of a run. -/
theorem forall_mem_effects {session : Session} {events : List Event} (property : Effect → Prop)
    (steps : ∀ earlier event, property ((session.after earlier).step event).2) :
    ∀ effect ∈ session.effects events, property effect := by
  intro effect member
  obtain ⟨position, found⟩ := List.mem_iff_getElem?.mp member
  rw [effects_getElem?] at found
  obtain ⟨event, _, rfl⟩ := Option.map_eq_some_iff.mp found
  exact steps _ event

/-- What one event can do to a session, and when. -/
inductive Transition (session : Session) : Event → Session → Effect → Prop where
  | locked {event : Event} (edits : event.isEdit = true) (closed : session.closed = true) :
      Transition session event session { answer := .refused .sessionClosed }
  | refused {event : Event} {error : EditorError} (edits : event.isEdit = true)
      (isOpen : session.closed = false) :
      Transition session event session { answer := .refused error }
  | edited {event : Event} (model : Record) (edits : event.isEdit = true)
      (isOpen : session.closed = false) :
      Transition session event { session with model }
        { answer := .done, published := some model }
  | closing : Transition session .close { session with closed := true } { answer := .done }
  | late (closed : session.closed = true) :
      Transition session .begin session { answer := .closed }
  | busy (isOpen : session.closed = false) (held : session.submitting = true) :
      Transition session .begin session { answer := .alreadySubmitting }
  | invalid {violations : List Violation} (isOpen : session.closed = false)
      (free : session.submitting = false)
      (found : session.model.violations session.schema = violations) (some : violations ≠ []) :
      Transition session .begin session { answer := .invalid violations }
  | sent (isOpen : session.closed = false) (free : session.submitting = false)
      (valid : session.model.violations session.schema = []) :
      Transition session .begin
        { session with submitting := true, waiting := session.waiting ++ [session.write] }
        { answer := .pending, sent := some session.write }
  | unasked {position : Nat} (answer : Except Failure Record)
      (nobody : session.waiting[position]? = none) :
      Transition session (.answered position answer) session { answer := .done }
  | unheard {position : Nat} {write : Write} (answer : Except Failure Record)
      (closed : session.closed = true) (waits : session.waiting[position]? = some write) :
      Transition session (.answered position answer) (session.finish position)
        { answer := .closed, settled := some write }
  | saved {position : Nat} {write : Write} (model : Record) (isOpen : session.closed = false)
      (waits : session.waiting[position]? = some write) :
      Transition session (.answered position (.ok model)) (session.finish position)
        { answer := .submitted model, settled := some write,
          notice := some (.success session.successText) }
  | failed {position : Nat} {write : Write} (failure : Failure) (isOpen : session.closed = false)
      (waits : session.waiting[position]? = some write) :
      Transition session (.answered position (.error failure)) (session.finish position)
        { answer := .failed failure, settled := some write,
          notice := some (.error failure.userMessage) }
  | missed {position : Nat} (nobody : session.waiting[position]? = none) :
      Transition session (.dropped position) session { answer := .done }
  | dropped {position : Nat} {write : Write} (waits : session.waiting[position]? = some write) :
      Transition session (.dropped position) (session.finish position)
        { answer := .done, settled := some write }

theorem edit_transition (session : Session) (event : Event) (edits : event.isEdit = true)
    (change : Record → Except EditorError Record) :
    Transition session event (session.edit change).1 (session.edit change).2 := by
  by_cases closed : session.closed = true
  · rw [edit, if_pos closed]
    exact .locked edits closed
  · have isOpen : session.closed = false := eq_false_of_ne_true closed
    rw [edit, if_neg closed]
    cases change session.model with
    | error error => exact .refused edits isOpen
    | ok model => exact .edited model edits isOpen

/-- A submit that never comes to wait leaves the session as it was, its flag included. -/
theorem begin_transition (session : Session) :
    Transition session .begin session.begin.1 session.begin.2 := by
  by_cases closed : session.closed = true
  · rw [begin, if_pos closed]
    exact .late closed
  have isOpen : session.closed = false := eq_false_of_ne_true closed
  rw [begin, if_neg closed, acquire?]
  by_cases held : session.submitting = true
  · rw [if_pos held]
    exact .busy isOpen held
  have free : session.submitting = false := eq_false_of_ne_true held
  rw [if_neg held]
  dsimp only
  cases found : session.model.violations session.schema with
  | nil => exact .sent isOpen free found
  | cons first rest =>
      have same : ({ session with submitting := true } : Session).release = session := by
        rw [release, ← free]
      rw [same]
      exact .invalid isOpen free found (List.cons_ne_nil first rest)

theorem reply_transition (session : Session) (position : Nat) (answer : Except Failure Record) :
    Transition session (.answered position answer) (session.reply position answer).1
      (session.reply position answer).2 := by
  rw [reply]
  cases waits : session.waiting[position]? with
  | none => exact .unasked answer waits
  | some write =>
      dsimp only
      by_cases closed : session.closed = true
      · rw [if_pos closed]
        exact .unheard answer closed waits
      · have isOpen : session.closed = false := eq_false_of_ne_true closed
        rw [if_neg closed]
        cases answer with
        | ok model => exact .saved model isOpen waits
        | error failure => exact .failed failure isOpen waits

theorem abandon_transition (session : Session) (position : Nat) :
    Transition session (.dropped position) (session.abandon position).1
      (session.abandon position).2 := by
  unfold abandon
  cases waits : session.waiting[position]? with
  | none => exact .missed waits
  | some write => exact .dropped waits

/-- Every step of a session is one of the transitions. -/
theorem step_transition (session : Session) (event : Event) :
    Transition session event (session.step event).1 (session.step event).2 := by
  cases event with
  | edit change => exact session.edit_transition _ rfl change
  | reopen => exact session.edit_transition _ rfl _
  | close => exact .closing
  | begin => exact session.begin_transition
  | answered position answer => exact session.reply_transition position answer
  | dropped position => exact session.abandon_transition position

theorem Transition.schema_eq {session next : Session} {event : Event} {effect : Effect}
    (transition : Transition session event next effect) : next.schema = session.schema := by
  cases transition <;> rfl

theorem Transition.target_eq {session next : Session} {event : Event} {effect : Effect}
    (transition : Transition session event next effect) : next.target = session.target := by
  cases transition <;> rfl

@[simp] theorem after_schema (session : Session) (events : List Event) :
    (session.after events).schema = session.schema :=
  after_invariant (fun reached => reached.schema = session.schema)
    (fun _ event same => (step_transition _ event).schema_eq.trans same) session events rfl

@[simp] theorem after_target (session : Session) (events : List Event) :
    (session.after events).target = session.target :=
  after_invariant (fun reached => reached.target = session.target)
    (fun _ event same => (step_transition _ event).target_eq.trans same) session events rfl

end Session

end ResourceEditor
